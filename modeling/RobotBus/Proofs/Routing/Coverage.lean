import RobotBus.Proofs.Routing.Forest

/-!
# Coverage

What a log of a broadcast covers: the ends of some tours, where the message is routed, and names at
these ends, under which links are sent the message. In a forest each node belongs to one tour, so
logs that cover different tours and names can be put together, and each node and name still occurs
just once (`Covers.append`).
-/

namespace RobotBus

/-- The node at which a message is routed, and the message, for everyone if it is broadcast. -/
def Deed.visit? (deed : Deed) : Option (NodeId × Message) :=
  match deed.task with
  | .perform (.transmit node message _) => some (node, message)
  | .perform (.broadcast node message _) =>
    some (node, { message with target := some Path.everyone })
  | _ => none

/-- The binding under which a link is sent a message, and the message. -/
def Deed.sent? (deed : Deed) : Option (Landing × Message) :=
  match deed.task with
  | .send node name link message _ => some (⟨node, name, link⟩, message)
  | _ => none

/-- The messages that are routed, in order. -/
def visits (log : List Deed) : List (NodeId × Message) :=
  log.filterMap Deed.visit?

/-- The messages that links are sent, in order. -/
def sends (log : List Deed) : List (Landing × Message) :=
  log.filterMap Deed.sent?

/-- The name, with its node, under which a link is sent a message. -/
def bindingOf (sent : Landing × Message) : NodeId × String :=
  (sent.1.node, sent.1.name)

theorem visits_append (log log' : List Deed) : visits (log ++ log') = visits log ++ visits log' :=
  List.filterMap_append

theorem sends_append (log log' : List Deed) : sends (log ++ log') = sends log ++ sends log' :=
  List.filterMap_append

/-- What a message for everyone has become at the end of a tour. -/
def Message.after (message : Message) (tour : List Bridge) : Message :=
  ⟨some Path.everyone, Path.along (tour.reverse.map (·.far.name)) message.source, message.payload⟩

/-- The tours whose ends are visited, and the names and links at these ends that are sent the
message. -/
structure Territory where
  visited : List Bridge → Prop
  sent : List Bridge → String → LinkId → Prop

namespace Territory

def empty : Territory :=
  ⟨fun _ => False, fun _ _ _ => False⟩

/-- The end of one tour. -/
def node (tour : List Bridge) : Territory :=
  ⟨fun other => other = tour, fun _ _ _ => False⟩

/-- One name at the end of a tour. -/
def binding (tour : List Bridge) (entry : String × LinkId) : Territory :=
  ⟨fun _ => False, fun other name link => other = tour ∧ (name, link) = entry⟩

def union (territory territory' : Territory) : Territory :=
  ⟨fun tour => territory.visited tour ∨ territory'.visited tour,
    fun tour name link => territory.sent tour name link ∨ territory'.sent tour name link⟩

/-- Two territories have no tour and no name in common, and links of the first one are not at nodes
that are visited in the second one. -/
structure Apart (territory territory' : Territory) : Prop where
  visited : ∀ tour, territory.visited tour → ¬territory'.visited tour
  sent : ∀ tour name link link', territory.sent tour name link → ¬territory'.sent tour name link'
  before : ∀ tour name link, territory.sent tour name link → ¬territory'.visited tour

/-- Two territories agree on all tours from a node. -/
structure Agree (bridges : List Bridge) (origin : NodeId) (territory territory' : Territory) :
    Prop where
  visited : ∀ tour node, Tour bridges origin tour node →
    (territory.visited tour ↔ territory'.visited tour)
  sent : ∀ tour node, Tour bridges origin tour node → ∀ name link,
    (territory.sent tour name link ↔ territory'.sent tour name link)

end Territory

/-- The log of a broadcast visits the ends of some tours, and sends the message under some names
there, each once, and nothing else. -/
structure Covers (bridges : List Bridge) (origin : NodeId) (message : Message)
    (territory : Territory) (log : List Deed) : Prop where
  visits_iff : ∀ node routed, (node, routed) ∈ visits log ↔
    ∃ tour, Tour bridges origin tour node ∧ territory.visited tour ∧ routed = message.after tour
  visits_once : ((visits log).map Prod.fst).Nodup
  sends_iff : ∀ landing sent, (landing, sent) ∈ sends log ↔
    ∃ tour, Tour bridges origin tour landing.node ∧
      territory.sent tour landing.name landing.link ∧ sent = message.after tour
  sends_once : ((sends log).map bindingOf).Nodup

variable {bridges : List Bridge} {origin : NodeId} {message : Message}
  {territory territory' : Territory} {log log' : List Deed}

theorem Covers.congr (h : Covers bridges origin message territory log)
    (hAgree : territory.Agree bridges origin territory') :
    Covers bridges origin message territory' log where
  visits_iff node routed := by
    rw [h.visits_iff]
    refine exists_congr fun tour => and_congr_right fun hTour => ?_
    rw [hAgree.visited tour node hTour]
  visits_once := h.visits_once
  sends_iff landing sent := by
    rw [h.sends_iff]
    refine exists_congr fun tour => and_congr_right fun hTour => ?_
    rw [hAgree.sent tour landing.node hTour]
  sends_once := h.sends_once

/-- Only visits and messages to links count. -/
theorem Covers.concat (h : Covers bridges origin message territory log) {deed : Deed}
    (hVisit : deed.visit? = none) (hSent : deed.sent? = none) :
    Covers bridges origin message territory (log ++ [deed]) := by
  have hVisits : visits (log ++ [deed]) = visits log := by
    rw [visits_append, visits, visits, List.filterMap_cons_none hVisit, List.filterMap_nil,
      List.append_nil]
  have hSends : sends (log ++ [deed]) = sends log := by
    rw [sends_append, sends, sends, List.filterMap_cons_none hSent, List.filterMap_nil,
      List.append_nil]
  refine ⟨?_, ?_, ?_, ?_⟩
  · rw [hVisits]
    exact h.visits_iff
  · rw [hVisits]
    exact h.visits_once
  · rw [hSends]
    exact h.sends_iff
  · rw [hSends]
    exact h.sends_once

theorem Covers.append (hForest : IsForest bridges) (h : Covers bridges origin message territory log)
    (h' : Covers bridges origin message territory' log') (hApart : territory.Apart territory') :
    Covers bridges origin message (territory.union territory') (log ++ log') where
  visits_iff node routed := by
    rw [visits_append, List.mem_append, h.visits_iff, h'.visits_iff, ← exists_or]
    simp only [Territory.union, or_and_right, and_or_left]
  visits_once := by
    rw [visits_append, List.map_append, List.nodup_append]
    refine ⟨h.visits_once, h'.visits_once, ?_⟩
    rintro node hNode node' hNode' rfl
    obtain ⟨⟨_, routed⟩, hVisit, rfl⟩ := List.mem_map.1 hNode
    obtain ⟨⟨_, routed'⟩, hVisit', rfl⟩ := List.mem_map.1 hNode'
    obtain ⟨tour, hEnd, hTour, _⟩ := (h.visits_iff _ _).1 hVisit
    obtain ⟨tour', hEnd', hTour', _⟩ := (h'.visits_iff _ _).1 hVisit'
    obtain rfl := hEnd.unique hForest hEnd'
    exact hApart.visited tour hTour hTour'
  sends_iff landing sent := by
    rw [sends_append, List.mem_append, h.sends_iff, h'.sends_iff, ← exists_or]
    simp only [Territory.union, or_and_right, and_or_left]
  sends_once := by
    rw [sends_append, List.map_append, List.nodup_append]
    refine ⟨h.sends_once, h'.sends_once, ?_⟩
    rintro binding hBinding binding' hBinding' rfl
    obtain ⟨⟨landing, sent⟩, hSent, rfl⟩ := List.mem_map.1 hBinding
    obtain ⟨⟨landing', sent'⟩, hSent', hSame⟩ := List.mem_map.1 hBinding'
    obtain ⟨hNode, hName⟩ := Prod.mk.inj hSame
    obtain ⟨tour, hEnd, hTour, _⟩ := (h.sends_iff landing sent).1 hSent
    obtain ⟨tour', hEnd', hTour', _⟩ := (h'.sends_iff landing' sent').1 hSent'
    rw [show landing'.node = landing.node from hNode] at hEnd'
    rw [show landing'.name = landing.name from hName] at hTour'
    obtain rfl := hEnd.unique hForest hEnd'
    exact hApart.sent tour _ _ _ hTour hTour'

theorem covers_nil : Covers bridges origin message .empty [] where
  visits_iff node routed := by simp [visits, Territory.empty]
  visits_once := List.nodup_nil
  sends_iff landing sent := by simp [sends, Territory.empty]
  sends_once := List.nodup_nil

/-- A visit covers the end of a tour. -/
theorem covers_visit {tour : List Bridge} {node : NodeId} (h : Tour bridges origin tour node)
    {deed : Deed} (hVisit : deed.visit? = some (node, message.after tour))
    (hSent : deed.sent? = none) : Covers bridges origin message (.node tour) [deed] where
  visits_iff other routed := by
    rw [visits, List.filterMap_cons_some hVisit, List.filterMap_nil, List.mem_singleton,
      Prod.mk.injEq]
    constructor
    · rintro ⟨rfl, rfl⟩
      exact ⟨tour, h, rfl, rfl⟩
    · rintro ⟨_, hOther, rfl, rfl⟩
      exact ⟨hOther.isWalk.last_unique h.isWalk, rfl⟩
  visits_once := by
    rw [visits, List.filterMap_cons_some hVisit]
    exact List.pairwise_singleton _ node
  sends_iff landing sent := by simp [sends, hSent, Territory.node]
  sends_once := by
    rw [sends, List.filterMap_cons_none hSent]
    exact List.nodup_nil

/-- A link at the end of a tour is sent what has come over the bridges. -/
theorem covers_send {tour : List Bridge} {node : NodeId} (h : Tour bridges origin tour node)
    (entry : String × LinkId) (reach : Reach) (led : List Task) :
    Covers bridges origin message (.binding tour entry)
      [⟨.send node entry.1 entry.2 (message.after tour) reach, led⟩] where
  visits_iff other routed := by simp [visits, Deed.visit?, Territory.binding]
  visits_once := List.nodup_nil
  sends_iff landing sent := by
    change _ ∈ [((⟨node, entry.1, entry.2⟩ : Landing), message.after tour)] ↔ _
    rw [List.mem_singleton, Prod.mk.injEq]
    constructor
    · rintro ⟨rfl, rfl⟩
      exact ⟨tour, h, ⟨rfl, rfl⟩, rfl⟩
    · rintro ⟨_, hOther, ⟨rfl, rfl⟩, rfl⟩
      exact ⟨Landing.ext (hOther.isWalk.last_unique h.isWalk) rfl rfl, rfl⟩
  sends_once := List.pairwise_singleton _ _

end RobotBus
