import RobotBus.Proofs.Routing.Coverage
import RobotBus.Proofs.Routing.Duality

/-!
# Floods

A broadcast in a bridged forest. Where a tour ends, the message goes to all links but the one that
it came from, so it goes on over all bridges that make a longer tour (`floods_beyond`, by induction
on the bridges that are left). `Floods` says what tasks cover, and leaves alone what they do not
cover, so that the tasks of a broadcast can be looked at one by one (`Floods.append`, `floods_all`).
-/

namespace RobotBus.Network

variable {σ : Type} {behaviour : Behaviour σ} {bridges : List Bridge} {start net net' : Network σ}
  {origin node : NodeId} {message : Message} {territory territory' : Territory}
  {tasks tasks' : List Task} {tour : List Bridge}

/-- An execution covers a territory, and changes only the nodes where links are sent messages. -/
structure Flood (behaviour : Behaviour σ) (bridges : List Bridge) (origin : NodeId)
    (message : Message) (territory : Territory) (net : Network σ) (tasks : List Task)
    (log : List Deed) (net' : Network σ) : Prop where
  does : Does behaviour net tasks log net'
  covers : Covers bridges origin message territory log
  bridged : Bridged behaviour bridges net'
  frame : ∀ tour node, Tour bridges origin tour node →
    (∀ name link, ¬territory.sent tour name link) → net'.nodes.get? node = net.nodes.get? node

/-- The nodes to be visited are as they were at the start. -/
def Fresh (bridges : List Bridge) (start : Network σ) (origin : NodeId) (territory : Territory)
    (net : Network σ) : Prop :=
  ∀ tour node, Tour bridges origin tour node → territory.visited tour →
    net.nodes.get? node = start.nodes.get? node

/-- Whenever the nodes to be visited are as they were at the start, the tasks cover a territory. -/
def Floods (behaviour : Behaviour σ) (bridges : List Bridge) (start : Network σ) (origin : NodeId)
    (message : Message) (territory : Territory) (tasks : List Task) : Prop :=
  ∀ net, Bridged behaviour bridges net → Fresh bridges start origin territory net →
    ∃ log net', Flood behaviour bridges origin message territory net tasks log net'

/-! ## One task after the other -/

theorem floods_nil : Floods behaviour bridges start origin message .empty [] := fun net h _ =>
  ⟨[], net, does_nil net, covers_nil, h, fun _ _ _ _ => rfl⟩

theorem Floods.congr (h : Floods behaviour bridges start origin message territory tasks)
    (hAgree : territory.Agree bridges origin territory') :
    Floods behaviour bridges start origin message territory' tasks := by
  intro net hBridged hFresh
  obtain ⟨log, net', hFlood⟩ := h net hBridged fun tour node hTour hVisited =>
    hFresh tour node hTour ((hAgree.visited tour node hTour).1 hVisited)
  refine ⟨log, net', hFlood.does, hFlood.covers.congr hAgree, hFlood.bridged, ?_⟩
  intro tour node hTour hNot
  refine hFlood.frame tour node hTour fun name link hSent => ?_
  exact hNot name link ((hAgree.sent tour node hTour name link).1 hSent)

theorem Floods.append (hForest : IsForest bridges)
    (h : Floods behaviour bridges start origin message territory tasks)
    (h' : Floods behaviour bridges start origin message territory' tasks')
    (hApart : territory.Apart territory') :
    Floods behaviour bridges start origin message (territory.union territory')
      (tasks ++ tasks') := by
  intro net hBridged hFresh
  obtain ⟨log, mid, hFlood⟩ := h net hBridged fun tour node hTour hVisited =>
    hFresh tour node hTour (.inl hVisited)
  have hMid : Fresh bridges start origin territory' mid := by
    intro tour node hTour hVisited
    have hSame := hFlood.frame tour node hTour fun name link hSent =>
      hApart.before tour name link hSent hVisited
    exact hSame.trans (hFresh tour node hTour (.inr hVisited))
  obtain ⟨log', net', hFlood'⟩ := h' mid hFlood.bridged hMid
  refine ⟨log ++ log', net', hFlood.does.append hFlood'.does,
    hFlood.covers.append hForest hFlood'.covers hApart, hFlood'.bridged, ?_⟩
  intro tour node hTour hNot
  have hFirst := hFlood.frame tour node hTour fun name link hSent => hNot name link (.inl hSent)
  have hSecond := hFlood'.frame tour node hTour fun name link hSent => hNot name link (.inr hSent)
  exact hSecond.trans hFirst

/-- All territories of a list together. -/
def everywhere {α : Type} (items : List α) (territory : α → Territory) : Territory :=
  ⟨fun tour => ∃ item ∈ items, (territory item).visited tour,
    fun tour name link => ∃ item ∈ items, (territory item).sent tour name link⟩

theorem agree_everywhere_cons {α : Type} (item : α) (items : List α) (territory : α → Territory) :
    ((territory item).union (everywhere items territory)).Agree bridges origin
      (everywhere (item :: items) territory) where
  visited tour _ _ :=
    (List.exists_mem_cons_iff (fun item => (territory item).visited tour) item items).symm
  sent tour _ _ name link :=
    (List.exists_mem_cons_iff (fun item => (territory item).sent tour name link) item items).symm

theorem floods_all (hForest : IsForest bridges) {α : Type} {items : List α}
    {territory : α → Territory} (task : α → Task)
    (h : ∀ item ∈ items,
      Floods behaviour bridges start origin message (territory item) [task item])
    (hApart : items.Pairwise fun item later => (territory item).Apart (territory later)) :
    Floods behaviour bridges start origin message (everywhere items territory)
      (items.map task) := by
  induction items with
  | nil =>
    refine floods_nil.congr ⟨fun _ _ _ => ?_, fun _ _ _ _ _ => ?_⟩ <;>
      simp [Territory.empty, everywhere]
  | cons item items ih =>
    obtain ⟨hFirst, hRest⟩ := List.forall_mem_cons.1 h
    obtain ⟨hApartFirst, hApartRest⟩ := List.pairwise_cons.1 hApart
    refine (Floods.append hForest hFirst (ih hRest hApartRest) ?_).congr
      (agree_everywhere_cons item items territory)
    refine ⟨?_, ?_, ?_⟩
    · rintro tour hVisited ⟨later, hLater, hVisited'⟩
      exact (hApartFirst later hLater).visited tour hVisited hVisited'
    · rintro tour name link link' hSent ⟨later, hLater, hSent'⟩
      exact (hApartFirst later hLater).sent tour name link link' hSent hSent'
    · rintro tour name link hSent ⟨later, hLater, hVisited⟩
      exact (hApartFirst later hLater).before tour name link hSent hVisited

/-! ## Where a tour ends -/

/-- At the end of a tour a link is bound, and the tour has not come over it. -/
def Offers (bridges : List Bridge) (start : Network σ) (origin : NodeId) (tour : List Bridge)
    (name : String) (link : LinkId) : Prop :=
  ∃ node, Tour bridges origin tour node ∧ start.linkAt node name = some link ∧
    entrance tour ≠ some link

/-- All that can be reached from the end of a tour, and the end itself. -/
def onward (bridges : List Bridge) (start : Network σ) (origin : NodeId) (tour : List Bridge) :
    Territory :=
  ⟨fun later => tour <+: later,
    fun later name link => tour <+: later ∧ Offers bridges start origin later name link⟩

/-- The links at the end of a tour, and all that can be reached from there. -/
def beyond (bridges : List Bridge) (start : Network σ) (origin : NodeId) (tour : List Bridge) :
    Territory :=
  ⟨fun later => tour <+: later ∧ later ≠ tour,
    fun later name link => tour <+: later ∧ Offers bridges start origin later name link⟩

/-- A longer tour begins with a bridge from one of the links at the end of a tour. -/
def Passes (tour : List Bridge) (entry : String × LinkId) (later : List Bridge) : Prop :=
  ∃ bridge : Bridge, (bridge.near.name, bridge.near.link) = entry ∧ tour ++ [bridge] <+: later

/-- A link at the end of a tour, and all that can be reached through it. -/
def through (bridges : List Bridge) (start : Network σ) (origin : NodeId) (tour : List Bridge)
    (entry : String × LinkId) : Territory :=
  ⟨Passes tour entry, fun later name link => later = tour ∧ (name, link) = entry ∨
    Passes tour entry later ∧ Offers bridges start origin later name link⟩

theorem not_concat_isPrefix (tour : List Bridge) (bridge : Bridge) :
    ¬tour ++ [bridge] <+: tour := by
  intro h
  have hLength := h.length_le
  rw [List.length_append, List.length_singleton] at hLength
  omega

theorem Passes.length_lt {entry : String × LinkId} {later : List Bridge}
    (h : Passes tour entry later) : tour.length < later.length := by
  obtain ⟨bridge, _, hBridge⟩ := h
  have hLength := hBridge.length_le
  rw [List.length_append, List.length_singleton] at hLength
  exact hLength

theorem Passes.isPrefix {entry : String × LinkId} {later : List Bridge}
    (h : Passes tour entry later) : tour <+: later := by
  obtain ⟨bridge, _, hBridge⟩ := h
  exact (List.prefix_append tour [bridge]).trans hBridge

theorem Passes.unique {entry entry' : String × LinkId} {later : List Bridge}
    (h : Passes tour entry later) (h' : Passes tour entry' later) : entry = entry' := by
  obtain ⟨bridge, rfl, hBridge⟩ := h
  obtain ⟨bridge', rfl, hBridge'⟩ := h'
  have hSame := List.prefix_of_prefix_length_le hBridge hBridge' (by simp)
  have hEq := hSame.eq_of_length (by simp)
  rw [List.append_cancel_left_eq, List.cons.injEq] at hEq
  rw [hEq.1]

theorem apart_through {entry entry' : String × LinkId} (h : entry.1 ≠ entry'.1) :
    (through bridges start origin tour entry).Apart (through bridges start origin tour entry') := by
  have hNe : entry ≠ entry' := fun hSame => h (congrArg Prod.fst hSame)
  have hShort : ∀ other, ¬Passes tour other tour := fun other hPasses =>
    Nat.lt_irrefl _ hPasses.length_lt
  refine ⟨?_, ?_, ?_⟩
  · intro later hPasses hPasses'
    exact hNe (hPasses.unique hPasses')
  · rintro later name link link' (⟨rfl, rfl⟩ | ⟨hPasses, _⟩) (⟨hSame, rfl⟩ | ⟨hPasses', _⟩)
    · exact h rfl
    · exact hShort _ hPasses'
    · exact hShort _ (hSame ▸ hPasses)
    · exact hNe (hPasses.unique hPasses')
  · rintro later name link (⟨rfl, rfl⟩ | ⟨hPasses, _⟩) hPasses'
    · exact hShort _ hPasses'
    · exact hNe (hPasses.unique hPasses')

/-! ## Links at the end of a tour -/

/-- A tour does not go on over the link that it has come over. -/
theorem Bridged.entrance_ne (h : Bridged behaviour bridges start) {bridge : Bridge}
    {rest : List Bridge} {last : NodeId}
    (hTour : Tour bridges origin (tour ++ bridge :: rest) last) :
    entrance tour ≠ some bridge.near.link := by
  intro hEntrance
  obtain ⟨before, hBefore, hLink⟩ := Option.map_eq_some_iff.1 hEntrance
  obtain ⟨_, _, hTurn⟩ := List.isChain_append.1 hTour.goesOn
  have hMem : before ∈ tour := List.mem_of_getLast? hBefore
  have hCrosses := hTour.crosses before (List.mem_append_left _ hMem)
  have hBridge := hTour.crosses bridge (List.mem_append_right _ List.mem_cons_self)
  exact hTurn before hBefore bridge rfl (h.eq_of_link hCrosses.reverse hBridge hLink).symm

/-- A passive link is sent the message, and nothing comes of it. -/
theorem floods_endpoint (hForest : IsForest bridges) (hTour : Tour bridges origin tour node)
    (entry : String × LinkId) (hLink : ¬IsEnd bridges entry.2) :
    Floods behaviour bridges start origin message (.binding tour entry)
      [.send node entry.1 entry.2 (message.after tour) .everyone] := by
  intro net hBridged _
  obtain ⟨verdict, net', hDoes, hBridged', hFrame⟩ :=
    hBridged.does_send hLink node entry.1 (message.after tour) .everyone
  refine ⟨_, net', hDoes, ?_, hBridged', ?_⟩
  · exact (covers_send hTour entry .everyone _).concat rfl rfl
  · intro other node' hOther hNot
    apply hFrame
    rintro rfl
    exact hNot entry.1 entry.2 ⟨hOther.unique hForest hTour, rfl⟩

theorem after_concat (message : Message) (tour : List Bridge) (bridge : Bridge) :
    message.after (tour ++ [bridge]) = ⟨some Path.everyone,
      some (Path.through bridge.far.name (message.after tour).source), message.payload⟩ := by
  rw [Message.after, List.reverse_concat]
  rfl

/-- Over a bridge, a message for everyone is sent on to all links at the far end but this one. -/
theorem step_crossing (message : Message) (tour : List Bridge) {bridge : Bridge} {table : Node}
    (hTable : net.nodes.get? bridge.far.node = some table) :
    net.step behaviour
        (.perform (bridge.crossing (message.after tour) (some bridge.far.link))) =
      (net, broadcastTasks bridge.far.node table (message.after (tour ++ [bridge]))
        (entrance (tour ++ [bridge]))) := by
  have hEntrance : entrance (tour ++ [bridge]) = some bridge.far.link := by
    rw [entrance, List.getLast?_concat]
    rfl
  rw [after_concat, hEntrance, Bridge.crossing, step, perform]
  simp only [hTable, transmitTasks, Message.after, if_true]

/-- A visit to the end of a tour, before all that lies beyond. -/
theorem covers_onward (hForest : IsForest bridges) (hTour : Tour bridges origin tour node)
    {log : List Deed} (h : Covers bridges origin message (beyond bridges start origin tour) log)
    {deed : Deed} (hVisit : deed.visit? = some (node, message.after tour))
    (hSent : deed.sent? = none) :
    Covers bridges origin message (onward bridges start origin tour) (deed :: log) := by
  have hApart : (Territory.node tour).Apart (beyond bridges start origin tour) :=
    ⟨fun _ hSame hBeyond => hBeyond.2 hSame, nofun, nofun⟩
  refine ((covers_visit hTour hVisit hSent).append hForest h hApart).congr ⟨?_, ?_⟩
  · intro later other _
    constructor
    · rintro (rfl | hBeyond)
      · exact List.prefix_refl later
      · exact hBeyond.1
    · intro hOnward
      by_cases hSame : later = tour
      · exact .inl hSame
      · exact .inr ⟨hOnward, hSame⟩
  · exact fun later other _ name link => ⟨fun hSent => hSent.resolve_left id, .inr⟩

/-- A bridge takes the message to its far end, and on from there. -/
theorem floods_bridge (hForest : IsForest bridges) {bridge : Bridge}
    (hBridge : Crosses bridges bridge) (hNear : Tour bridges origin tour bridge.near.node)
    (hTour : Tour bridges origin (tour ++ [bridge]) bridge.far.node)
    (hRest : ∀ table, start.nodes.get? bridge.far.node = some table →
      Floods behaviour bridges start origin message
        (beyond bridges start origin (tour ++ [bridge]))
        (broadcastTasks bridge.far.node table (message.after (tour ++ [bridge]))
          (entrance (tour ++ [bridge])))) :
    Floods behaviour bridges start origin message
      ((Territory.binding tour (bridge.near.name, bridge.near.link)).union
        (onward bridges start origin (tour ++ [bridge])))
      [.send bridge.near.node bridge.near.name bridge.near.link (message.after tour)
        .everyone] := by
  intro net hBridged hFresh
  have hBound := hBridged.bound bridge.reverse hBridge.reverse
  have hSend : net.step behaviour (.send bridge.near.node bridge.near.name bridge.near.link
      (message.after tour) .everyone) = _ := step_send net _ _ _ _ _
  obtain ⟨hOperations, hKeep⟩ := hBridged.carries bridge hBridge net (message.after tour)
    hBound.contains
  have hNodes := nodes_react net behaviour bridge.near.link (message.after tour)
  rw [hOperations, hKeep] at hSend
  generalize (net.react behaviour bridge.near.link (message.after tour)).1 = mid at hSend hNodes
  obtain ⟨table, hTable, _⟩ := hBound
  have hFar : start.nodes.get? bridge.far.node = some table :=
    (hFresh _ _ hTour (.inr (List.prefix_refl _))).symm.trans hTable
  obtain ⟨log, net', hFlood⟩ := hRest table hFar mid (hBridged.of_nodes hNodes) (by
    intro later other hLater hVisited
    rw [hNodes]
    exact hFresh later other hLater (.inr hVisited.1))
  have hCrossing := does_of_step (step_crossing message tour (hNodes ▸ hTable)) hFlood.does
  have hSettle : Does behaviour net' [.settle bridge.near.node bridge.near.name bridge.near.link
      (message.after tour).target .everyone .keep] _ net' := does_of_step rfl (does_nil net')
  refine ⟨_, net', does_of_step hSend (hCrossing.append hSettle), ?_, hFlood.bridged, ?_⟩
  · refine (covers_send hNear (bridge.near.name, bridge.near.link) .everyone _).append hForest
      ((covers_onward hForest hTour hFlood.covers ?_ rfl).concat rfl rfl) ⟨nofun, ?_, ?_⟩
    · rw [after_concat]
      rfl
    · rintro _ name link link' ⟨rfl, _⟩ ⟨hBack, _⟩
      exact not_concat_isPrefix _ bridge hBack
    · rintro _ name link ⟨rfl, _⟩ hBack
      exact not_concat_isPrefix _ bridge hBack
  · intro later other hLater hNot
    rw [← hNodes]
    exact hFlood.frame later other hLater fun name link hSent => hNot name link (.inr hSent)

/-- A longer tour that goes on through the end of a bridge goes on over this bridge. -/
theorem Bridged.passes_iff (h : Bridged behaviour bridges start) {bridge : Bridge}
    (hBridge : Crosses bridges bridge) {later : List Bridge} {last : NodeId}
    (hLater : Tour bridges origin later last) :
    Passes tour (bridge.near.name, bridge.near.link) later ↔ tour ++ [bridge] <+: later := by
  constructor
  · rintro ⟨bridge', hEntry, hPrefix⟩
    have hCrosses := hLater.crosses bridge' (hPrefix.subset (by simp))
    obtain rfl := h.eq_of_link hCrosses hBridge (congrArg Prod.snd hEntry)
    exact hPrefix
  · exact fun hPrefix => ⟨bridge, rfl, hPrefix⟩

theorem not_passes {entry : String × LinkId} (hLink : ¬IsEnd bridges entry.2)
    {later : List Bridge} {last : NodeId} (hLater : Tour bridges origin later last) :
    ¬Passes tour entry later := by
  rintro ⟨bridge, rfl, hPrefix⟩
  exact hLink ⟨bridge, hLater.crosses bridge (hPrefix.subset (by simp)), rfl⟩

/-- Everyone at the end of a tour is sent the message. -/
theorem floods_through (hForest : IsForest bridges) (h : Bridged behaviour bridges start)
    (hTour : Tour bridges origin tour node) {entry : String × LinkId}
    (hBound : start.linkAt node entry.1 = some entry.2) (hEntrance : entrance tour ≠ some entry.2)
    (hRest : ∀ (bridge : Bridge) (table : Node),
      Tour bridges origin (tour ++ [bridge]) bridge.far.node →
      start.nodes.get? bridge.far.node = some table →
      Floods behaviour bridges start origin message
        (beyond bridges start origin (tour ++ [bridge]))
        (broadcastTasks bridge.far.node table (message.after (tour ++ [bridge]))
          (entrance (tour ++ [bridge])))) :
    Floods behaviour bridges start origin message (through bridges start origin tour entry)
      [.send node entry.1 entry.2 (message.after tour) .everyone] := by
  by_cases hLink : IsEnd bridges entry.2
  · obtain ⟨bridge, hBridge, hEnd⟩ := hLink
    rw [← hEnd] at hBound hEntrance
    obtain ⟨rfl, hName⟩ := h.only bridge hBridge _ _ hBound
    obtain rfl : entry = (bridge.near.name, bridge.near.link) := Prod.ext hName hEnd.symm
    have hFar := hTour.concat hBridge rfl hEntrance
    refine (floods_bridge hForest hBridge hTour hFar fun table => hRest bridge table hFar).congr
      ⟨?_, ?_⟩
    · intro later last hLater
      exact (or_iff_right id).trans (h.passes_iff hBridge hLater).symm
    · intro later last hLater name link
      exact or_congr_right (and_congr_left' (h.passes_iff hBridge hLater).symm)
  · refine (floods_endpoint hForest hTour entry hLink).congr ⟨?_, ?_⟩
    · intro later last hLater
      exact (iff_false_intro (not_passes hLink hLater)).symm
    · intro later last hLater name link
      exact (or_iff_left fun hThrough => not_passes hLink hLater hThrough.1).symm

theorem mem_broadcast {table : Node} {entry : String × LinkId} (deny : Option LinkId)
    (hTable : start.nodes.get? node = some table) :
    entry ∈ table.links.entries.filter (fun e => deny ≠ some e.2) ↔
      start.linkAt node entry.1 = some entry.2 ∧ deny ≠ some entry.2 := by
  rw [List.mem_filter, linkAt_of_get? hTable, ← Bindings.mem_entries_iff, decide_eq_true_iff]

/-- A tour that goes on from a node does so through a link that is sent the message there. -/
theorem Bridged.exists_passes (h : Bridged behaviour bridges start)
    (hTour : Tour bridges origin tour node) {later : List Bridge} {last : NodeId}
    (hLater : Tour bridges origin later last) (hPrefix : tour <+: later) (hNe : later ≠ tour) :
    ∃ entry, start.linkAt node entry.1 = some entry.2 ∧ entrance tour ≠ some entry.2 ∧
      Passes tour entry later := by
  obtain ⟨rest, rfl⟩ := hPrefix
  cases rest with
  | nil => exact absurd (List.append_nil tour) hNe
  | cons bridge rest =>
    obtain ⟨mid, hFront, hRest⟩ := hLater.toRoute.of_append
    obtain rfl := hFront.isWalk.last_unique hTour.isWalk
    obtain ⟨rfl, hBridge, _⟩ := hRest.of_cons
    refine ⟨(bridge.near.name, bridge.near.link), binds_iff.1 (h.bound bridge hBridge),
      h.entrance_ne hLater, bridge, rfl, rest, ?_⟩
    rw [List.append_assoc, List.singleton_append]

/-- What lies beyond the end of a tour is reached through one of the links there. -/
theorem Bridged.agree_beyond (h : Bridged behaviour bridges start)
    (hTour : Tour bridges origin tour node) {table : Node}
    (hTable : start.nodes.get? node = some table) :
    (everywhere (table.links.entries.filter fun e => entrance tour ≠ some e.2)
        (through bridges start origin tour)).Agree bridges origin
      (beyond bridges start origin tour) where
  visited later last hLater := by
    constructor
    · rintro ⟨entry, _, hPasses⟩
      exact ⟨hPasses.isPrefix, fun hSame => Nat.lt_irrefl _ (hSame ▸ hPasses.length_lt)⟩
    · rintro ⟨hPrefix, hNe⟩
      obtain ⟨entry, hBound, hEntrance, hPasses⟩ := h.exists_passes hTour hLater hPrefix hNe
      exact ⟨entry, (mem_broadcast _ hTable).2 ⟨hBound, hEntrance⟩, hPasses⟩
  sent later last hLater name link := by
    constructor
    · rintro ⟨entry, hEntry, ⟨rfl, rfl⟩ | ⟨hPasses, hOffers⟩⟩
      · exact ⟨List.prefix_refl _, node, hTour, (mem_broadcast _ hTable).1 hEntry⟩
      · exact ⟨hPasses.isPrefix, hOffers⟩
    · rintro ⟨hPrefix, hOffers⟩
      by_cases hSame : later = tour
      · subst hSame
        obtain ⟨node', hTour', hOffer⟩ := hOffers
        obtain rfl := hTour'.isWalk.last_unique hTour.isWalk
        exact ⟨(name, link), (mem_broadcast _ hTable).2 hOffer, .inl ⟨rfl, rfl⟩⟩
      · obtain ⟨entry, hBound, hEntrance, hPasses⟩ := h.exists_passes hTour hLater hPrefix hSame
        exact ⟨entry, (mem_broadcast _ hTable).2 ⟨hBound, hEntrance⟩, .inr ⟨hPasses, hOffers⟩⟩

/-- From the end of a tour, a broadcast covers all that lies beyond. -/
theorem floods_beyond (hForest : IsForest bridges) (h : Bridged behaviour bridges start)
    (hTour : Tour bridges origin tour node) {table : Node}
    (hTable : start.nodes.get? node = some table) :
    Floods behaviour bridges start origin message (beyond bridges start origin tour)
      (broadcastTasks node table (message.after tour) (entrance tour)) := by
  -- the induction is on the number of bridges that the tour can still cross
  generalize hLeft : (crossings bridges).length - tour.length = left
  induction left using Nat.strongRecOn generalizing tour node table with
  | ind left ih =>
    refine (floods_all hForest (fun e => .send node e.1 e.2 (message.after tour) .everyone)
      ?_ ?_).congr (h.agree_beyond hTour hTable)
    · intro entry hEntry
      obtain ⟨hBound, hEntrance⟩ := (mem_broadcast _ hTable).1 hEntry
      refine floods_through hForest h hTour hBound hEntrance ?_
      intro bridge table' hFar hTable'
      have hLength := hFar.length_le hForest
      have hLess : (crossings bridges).length - (tour ++ [bridge]).length < left := by
        rw [List.length_append, List.length_singleton] at hLength ⊢
        omega
      exact ih _ hLess hFar hTable' rfl
    · exact ((List.pairwise_map.1 table.links.distinct).filter _).imp apart_through

/-! ## Broadcasts -/

/-- What the log of a broadcast from a node shows: the nodes that bridges connect with it route the
message once each, and each link there that is not the end of a bridge is sent the message once,
with a source that leads back to the first node whenever bridges are as they are. -/
structure Flooded (behaviour : Behaviour σ) (bridges : List Bridge) (net : Network σ)
    (origin : NodeId) (message : Message) (log : List Deed) : Prop where
  visited : ∀ node, node ∈ (visits log).map Prod.fst ↔ Connected bridges origin node
  once : ((visits log).map Prod.fst).Nodup
  routed : ∀ visit ∈ visits log,
    visit.2.target = some Path.everyone ∧ visit.2.payload = message.payload
  bound : ∀ sent ∈ sends log, Connected bridges origin sent.1.node ∧ net.Binds sent.1
  sent : ∀ landing : Landing, Connected bridges origin landing.node → net.Binds landing →
    ¬IsEnd bridges landing.link → ∃ returning,
      (sends log).filter (fun sent => bindingOf sent = (landing.node, landing.name)) =
        [(landing, ⟨some Path.everyone, returning, message.payload⟩)] ∧
      ∀ later, Bridged behaviour bridges later → ∀ rest payload, ∃ way target,
        Leads behaviour later way landing.node ⟨returning, rest, payload⟩ origin
          ⟨message.source, target, payload⟩

theorem filter_eq_singleton {α β : Type} [DecidableEq β] {items : List α} (key : α → β)
    (hKeys : (items.map key).Nodup) {item : α} (hItem : item ∈ items) :
    items.filter (fun other => key other = key item) = [item] := by
  induction items with
  | nil => cases hItem
  | cons first items ih =>
    rw [List.map_cons, List.nodup_cons] at hKeys
    rcases List.mem_cons.1 hItem with rfl | hLater
    · rw [List.filter_cons_of_pos (by simp), List.cons.injEq, List.filter_eq_nil_iff]
      refine ⟨rfl, fun other hOther hSame => hKeys.1 ?_⟩
      rw [← of_decide_eq_true hSame]
      exact List.mem_map_of_mem hOther
    · have hNe : key first ≠ key item := fun hSame => hKeys.1 (hSame ▸ List.mem_map_of_mem hLater)
      rw [List.filter_cons_of_neg (by simpa using hNe), ih hKeys.2 hLater]

theorem isEnd_of_entrance {link : LinkId} (hTour : Tour bridges origin tour node)
    (h : entrance tour = some link) : IsEnd bridges link := by
  obtain ⟨bridge, hBridge, hLink⟩ := Option.map_eq_some_iff.1 h
  exact ⟨bridge.reverse, (hTour.crosses bridge (List.mem_of_getLast? hBridge)).reverse, hLink⟩

theorem flooded_of_covers {log : List Deed}
    (hCovers : Covers bridges origin message (onward bridges net origin []) log) :
    Flooded behaviour bridges net origin message log where
  visited node := by
    rw [List.mem_map]
    constructor
    · rintro ⟨⟨_, routed⟩, hVisit, rfl⟩
      obtain ⟨tour, hTour, _⟩ := (hCovers.visits_iff _ _).1 hVisit
      exact ⟨tour, hTour.toRoute⟩
    · rintro ⟨walk, hRoute⟩
      obtain ⟨tour, hTour⟩ := hRoute.exists_tour
      exact ⟨(node, message.after tour),
        (hCovers.visits_iff _ _).2 ⟨tour, hTour, List.nil_prefix, rfl⟩, rfl⟩
  once := hCovers.visits_once
  routed := by
    rintro ⟨node, routed⟩ hVisit
    obtain ⟨tour, _, _, rfl⟩ := (hCovers.visits_iff _ _).1 hVisit
    exact ⟨rfl, rfl⟩
  bound := by
    rintro ⟨landing, sent⟩ hSent
    obtain ⟨tour, hTour, ⟨_, node, hTour', hBound, _⟩, _⟩ := (hCovers.sends_iff _ _).1 hSent
    obtain rfl := hTour'.isWalk.last_unique hTour.isWalk
    exact ⟨⟨tour, hTour.toRoute⟩, binds_iff.2 hBound⟩
  sent landing hConnected hBinds hLink := by
    obtain ⟨walk, hRoute⟩ := hConnected
    obtain ⟨tour, hTour⟩ := hRoute.exists_tour
    have hOffers : Offers bridges net origin tour landing.name landing.link :=
      ⟨landing.node, hTour, binds_iff.1 hBinds,
        fun hEntrance => hLink (isEnd_of_entrance hTour hEntrance)⟩
    have hSent := (hCovers.sends_iff landing _).2 ⟨tour, hTour, ⟨List.nil_prefix, hOffers⟩, rfl⟩
    refine ⟨_, filter_eq_singleton bindingOf hCovers.sends_once hSent, ?_⟩
    intro later hLater rest payload
    exact ⟨_, _, leads_back hTour.isWalk (hLater.joined_of_route hTour.toRoute) rest
      message.source payload⟩

/-- **A broadcast floods a forest.** In a bridged network whose bridges form a forest, whatever the
other links answer and in whatever order links are bound, a broadcast is done with after finitely
many steps. All nodes connected with the first one route the message exactly once, and all links
there that do not belong to a bridge are sent it exactly once, each with a source that leads back to
where the broadcast began. -/
theorem broadcast_floods_forest (hForest : IsForest bridges) (h : Bridged behaviour bridges net)
    (hOrigin : net.nodes.contains origin = true) (message : Message) :
    ∃ log net',
      run behaviour log.length net [.perform (.broadcast origin message none)] = some net' ∧
      Does behaviour net [.perform (.broadcast origin message none)] log net' ∧
      Flooded behaviour bridges net origin message log ∧ Bridged behaviour bridges net' := by
  obtain ⟨table, hTable⟩ := Option.isSome_iff_exists.1 hOrigin
  have hTour : Tour bridges origin [] origin := ⟨.nil bridges origin, List.isChain_nil⟩
  obtain ⟨log, net', hFlood⟩ :=
    floods_beyond hForest h hTour hTable net h fun _ _ _ _ => rfl
  have hStep : net.step behaviour (.perform (.broadcast origin message none)) =
      (net, broadcastTasks origin table (message.after []) (entrance [])) := by
    simp only [step, perform, hTable]
    rfl
  have hDoes := does_of_step hStep hFlood.does
  refine ⟨_, net', run_eq_some_iff.2 ⟨_, hDoes, Nat.le_refl _⟩, hDoes, flooded_of_covers ?_,
    hFlood.bridged⟩
  exact covers_onward hForest hTour hFlood.covers rfl rfl

open Simulation in
/-- From the middle of a row, whose ends have a link that asks to be removed and one that breaks
down. -/
theorem broadcast_floods_row :
    IsForest rowBridges ∧ row.Bridged (forgetful rowLab) rowBridges ∧
      row.nodes.contains 1 = true ∧ ∃ log net',
        run (forgetful rowLab) log.length row
          [.perform (.broadcast 1 ⟨none, some "s/t", [1]⟩ none)] = some net' ∧
        Does (forgetful rowLab) row [.perform (.broadcast 1 ⟨none, some "s/t", [1]⟩ none)] log
          net' ∧
        Flooded (forgetful rowLab) rowBridges row 1 ⟨none, some "s/t", [1]⟩ log ∧
        net'.Bridged (forgetful rowLab) rowBridges := by
  have hForest : IsForest rowBridges :=
    .cons (by decide) (by decide) (.cons (by decide) (by decide) isForest_nil)
  exact ⟨hForest, bridged_row, by decide,
    broadcast_floods_forest hForest bridged_row (by decide) ⟨none, some "s/t", [1]⟩⟩

end RobotBus.Network
