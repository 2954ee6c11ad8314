import Mathlib.Data.List.Nodup
import RobotBus.Proofs.Transport.Fleet

/-!
# Connections under one name

Connections of several transports may have the same name at the same node, and overlap: a reconnect
comes before the end of the old connection is noticed. Each registers its link in place of whatever
is bound there, and removes it by its number when it ends. So the name belongs to the connection
that registered last (`name_follows_latest`).

Three invariants carry this. `Numbered`: connections have different links, and no link is registered
twice. `Accounted`: what is bound anywhere belongs to a connection that has not ended, or was bound
by an explicit operation. `Follows`, for a name that no explicit operation was about: it is bound to
the latest link or to nothing, and to the latest one as long as nobody had a reason to remove it.
Each is kept by every `Turn`.
-/

namespace RobotBus.Transport.Fleet

open Simulation (Machine)

variable {σ : Type} {behaviour : Behaviour σ} {fleet next : Fleet σ} {landing : Landing}
  {number : Nat} {before after machine : Machine}

/-! ## Connections underway -/

/-- Some connection has registered this link and has not ended. -/
def Underway (fleet : Fleet σ) (landing : Landing) : Prop :=
  ∃ machine ∈ fleet.members, machine.landing? = some landing

instance (fleet : Fleet σ) (landing : Landing) : Decidable (fleet.Underway landing) :=
  inferInstanceAs (Decidable (∃ machine ∈ fleet.members, machine.landing? = some landing))

/-- The link that was registered last under a name. -/
def latest? (fleet : Fleet σ) (id : NodeId) (name : String) : Option LinkId :=
  (fleet.registrations.filter fun landing => landing.node = id ∧ landing.name = name).getLast?.map
    Landing.link

theorem underway_iff : fleet.Underway landing ↔
    ∃ (number : Nat) (machine : Machine), fleet.members[number]? = some machine ∧
      machine.landing? = some landing := by
  constructor
  · rintro ⟨machine, hMember, hLanding⟩
    obtain ⟨number, hNumber⟩ := List.mem_iff_getElem?.1 hMember
    exact ⟨number, machine, hNumber, hLanding⟩
  · rintro ⟨number, machine, hNumber, hLanding⟩
    exact ⟨machine, List.mem_of_getElem? hNumber, hLanding⟩

theorem latest?_of_registrations {id : NodeId} {name : String}
    (h : next.registrations = fleet.registrations) :
    next.latest? id name = fleet.latest? id name := by
  rw [latest?, latest?, h]

theorem latest?_append {id : NodeId} {name : String}
    (h : next.registrations = fleet.registrations ++ [landing]) :
    next.latest? id name = if landing.node = id ∧ landing.name = name then some landing.link
      else fleet.latest? id name := by
  rw [latest?, latest?, h, List.filter_append]
  by_cases hHere : landing.node = id ∧ landing.name = name
  · rw [if_pos hHere, List.filter_cons_of_pos (by simpa using hHere), List.filter_nil,
      List.getLast?_concat]
    rfl
  · rw [if_neg hHere, List.filter_cons_of_neg (by simpa using hHere), List.filter_nil,
      List.append_nil]

/-! ## One transport at a time -/

theorem Succeeds.member_number (h : Succeeds fleet next number before after) :
    next.members[number]? = some after := by
  have hLess := (List.getElem?_eq_some_iff.1 h.taken).1
  rw [h.put, List.getElem?_set_self hLess]

theorem Succeeds.member_of_ne (h : Succeeds fleet next number before after) {other : Nat}
    (hOther : other ≠ number) : next.members[other]? = fleet.members[other]? := by
  rw [h.put, List.getElem?_set_ne (Ne.symm hOther)]

/-- A link of a connection that has not ended: it was registered, or is going to be. -/
def Holds (machine : Machine) (landing : Landing) : Prop :=
  machine.arriving? = some landing ∨ machine.landing? = some landing

/-- The number of a link was given by the last event. -/
structure IsFresh (fleet next : Fleet σ) (landing : Landing) : Prop where
  node : fleet.net.nodes.contains landing.node = true
  least : fleet.fresh ≤ landing.link
  less : landing.link < next.fresh

/-- The links that transports have after an event: those from before, and fresh ones of one
transport only. -/
structure Inherits (fleet next : Fleet σ) (number : Nat) : Prop where
  node : ∀ machine ∈ next.members, fleet.net.nodes.contains machine.node = true
  held : ∀ (other : Nat) (machine : Machine) (landing : Landing),
    next.members[other]? = some machine → Holds machine landing →
    (∃ earlier, fleet.members[other]? = some earlier ∧ Holds earlier landing) ∨
      other = number ∧ IsFresh fleet next landing
  arriving : ∀ (other : Nat) (machine : Machine) (landing : Landing),
    next.members[other]? = some machine → machine.arriving? = some landing →
    (∃ earlier, fleet.members[other]? = some earlier ∧ earlier.arriving? = some landing) ∨
      IsFresh fleet next landing

theorem inherits_of_members (hMembers : next.members = fleet.members)
    (hNode : ∀ machine ∈ fleet.members, fleet.net.nodes.contains machine.node = true) :
    Inherits fleet next 0 := by
  refine ⟨?_, ?_, ?_⟩
  · rw [hMembers]
    exact hNode
  · intro other machine landing hMachine hHolds
    rw [hMembers] at hMachine
    exact .inl ⟨machine, hMachine, hHolds⟩
  · intro other machine landing hMachine hArriving
    rw [hMembers] at hMachine
    exact .inl ⟨machine, hMachine, hArriving⟩

theorem Succeeds.arriving_from (h : Succeeds fleet next number before after)
    (hNode : fleet.net.nodes.contains before.node = true)
    (hArriving : after.arriving? = some landing) :
    before.arriving? = some landing ∨ IsFresh fleet next landing := by
  rcases h.arriving landing hArriving with hOld | ⟨hSame, hLeast, hLess⟩
  · exact .inl hOld
  · exact .inr ⟨hSame ▸ hNode, hLeast, hLess⟩

theorem Succeeds.inherits (h : Succeeds fleet next number before after)
    (hNode : ∀ machine ∈ fleet.members, fleet.net.nodes.contains machine.node = true) :
    Inherits fleet next number := by
  have hBefore := hNode before (List.mem_of_getElem? h.taken)
  have hCases : ∀ {other machine}, next.members[other]? = some machine →
      other = number ∧ machine = after ∨ fleet.members[other]? = some machine := by
    intro other machine hMachine
    by_cases hOther : other = number
    · rw [hOther, h.member_number] at hMachine
      exact .inl ⟨hOther, (Option.some.inj hMachine).symm⟩
    · rw [h.member_of_ne hOther] at hMachine
      exact .inr hMachine
  refine ⟨?_, ?_, ?_⟩
  · intro machine hMember
    obtain ⟨other, hMachine⟩ := List.mem_iff_getElem?.1 hMember
    rcases hCases hMachine with ⟨_, rfl⟩ | hOld
    · rw [h.node]
      exact hBefore
    · exact hNode machine (List.mem_of_getElem? hOld)
  · intro other machine landing hMachine hHolds
    rcases hCases hMachine with ⟨rfl, rfl⟩ | hOld
    · rcases hHolds with hArriving | hLanding
      · rcases h.arriving_from hBefore hArriving with hOld | hFresh
        · exact .inl ⟨before, h.taken, .inl hOld⟩
        · exact .inr ⟨rfl, hFresh⟩
      · exact .inl ⟨before, h.taken, (h.landing landing hLanding).symm⟩
    · exact .inl ⟨machine, hOld, hHolds⟩
  · intro other machine landing hMachine hArriving
    rcases hCases hMachine with ⟨rfl, rfl⟩ | hOld
    · rcases h.arriving_from hBefore hArriving with hOld | hFresh
      · exact .inl ⟨before, h.taken, hOld⟩
      · exact .inr hFresh
    · exact .inl ⟨machine, hOld, hArriving⟩

theorem inherits_of_join (hMembers : next.members = fleet.members ++ [machine])
    (hMachine : fleet.net.nodes.contains machine.node = true) (hLanding : machine.landing? = none)
    (hArriving : ∀ landing, machine.arriving? = some landing →
      landing.node = machine.node ∧ fleet.fresh ≤ landing.link ∧ landing.link < next.fresh)
    (hNode : ∀ machine ∈ fleet.members, fleet.net.nodes.contains machine.node = true) :
    Inherits fleet next fleet.members.length := by
  have hFresh : ∀ landing, Holds machine landing → IsFresh fleet next landing := by
    intro landing hHolds
    rcases hHolds with hLink | hLink
    · obtain ⟨hSame, hLeast, hLess⟩ := hArriving landing hLink
      exact ⟨hSame ▸ hMachine, hLeast, hLess⟩
    · rw [hLanding] at hLink
      cases hLink
  have hCases : ∀ {number other}, next.members[number]? = some other →
      number = fleet.members.length ∧ other = machine ∨ fleet.members[number]? = some other := by
    intro number other hOther
    rw [hMembers, List.getElem?_append] at hOther
    split at hOther
    · exact .inr hOther
    · rw [List.getElem?_singleton] at hOther
      split at hOther
      · exact .inl ⟨by omega, (Option.some.inj hOther).symm⟩
      · cases hOther
  refine ⟨?_, ?_, ?_⟩
  · intro other hMember
    rw [hMembers, List.mem_append, List.mem_singleton] at hMember
    rcases hMember with hOld | rfl
    · exact hNode other hOld
    · exact hMachine
  · intro number other landing hOther hHolds
    rcases hCases hOther with ⟨hNumber, rfl⟩ | hOld
    · exact .inr ⟨hNumber, hFresh landing hHolds⟩
    · exact .inl ⟨other, hOld, hHolds⟩
  · intro number other landing hOther hLink
    rcases hCases hOther with ⟨_, rfl⟩ | hOld
    · exact .inr (hFresh landing (.inl hLink))
    · exact .inl ⟨other, hOld, hLink⟩

/-- **An event concerns one transport at most**, and gives it no other links but fresh ones. -/
theorem Turn.inherits (h : Turn fleet next)
    (hNode : ∀ machine ∈ fleet.members, fleet.net.nodes.contains machine.node = true) :
    ∃ number, Inherits fleet next number := by
  cases h with
  | idle _ hMembers => exact ⟨_, inherits_of_members hMembers hNode⟩
  | edit _ _ _ hMembers => exact ⟨_, inherits_of_members hMembers hNode⟩
  | refuse _ _ _ _ _ hMembers => exact ⟨_, inherits_of_members hMembers hNode⟩
  | stay _ _ _ hTurn => exact ⟨_, hTurn.inherits hNode⟩
  | land _ _ _ _ hTurn => exact ⟨_, hTurn.inherits hNode⟩
  | leave _ _ _ _ hTurn => exact ⟨_, hTurn.inherits hNode⟩
  | join machine _ hMembers _ hLanding hMachine hArriving =>
    exact ⟨_, inherits_of_join hMembers hMachine hLanding hArriving hNode⟩

/-! ## Connections that go on -/

theorem underway_of_members (h : next.members = fleet.members) :
    next.Underway landing ↔ fleet.Underway landing := by
  rw [Underway, Underway, h]

/-- The connections underway after a step of one transport: those of the others, and its own. -/
theorem Succeeds.underway_iff (h : Succeeds fleet next number before after) :
    next.Underway landing ↔ after.landing? = some landing ∨
      ∃ other machine, other ≠ number ∧ fleet.members[other]? = some machine ∧
        machine.landing? = some landing := by
  rw [Fleet.underway_iff]
  constructor
  · rintro ⟨other, machine, hMachine, hLanding⟩
    by_cases hOther : other = number
    · rw [hOther, h.member_number] at hMachine
      rw [Option.some.inj hMachine]
      exact .inl hLanding
    · rw [h.member_of_ne hOther] at hMachine
      exact .inr ⟨other, machine, hOther, hMachine, hLanding⟩
  · rintro (hLanding | ⟨other, machine, hOther, hMachine, hLanding⟩)
    · exact ⟨number, after, h.member_number, hLanding⟩
    · refine ⟨other, machine, ?_, hLanding⟩
      rw [h.member_of_ne hOther]
      exact hMachine

/-- A connection stays underway while another transport takes a step, or while its own registers
nothing and removes nothing. -/
theorem Succeeds.underway (h : Succeeds fleet next number before after)
    (hUnderway : fleet.Underway landing)
    (hKept : before.landing? = some landing → after.landing? = some landing) :
    next.Underway landing := by
  rw [h.underway_iff]
  obtain ⟨other, machine, hMachine, hLanding⟩ := Fleet.underway_iff.1 hUnderway
  by_cases hOther : other = number
  · rw [hOther, h.taken] at hMachine
    rw [← Option.some.inj hMachine] at hLanding
    exact .inl (hKept hLanding)
  · exact .inr ⟨other, machine, hOther, hMachine, hLanding⟩

/-- A connection that is underway was so before, or has just registered its link. -/
theorem Succeeds.underway_before (h : Succeeds fleet next number before after)
    (hUnderway : next.Underway landing) :
    fleet.Underway landing ∨ after.landing? = some landing := by
  rw [h.underway_iff] at hUnderway
  rcases hUnderway with hLanding | ⟨other, machine, _, hMachine, hLanding⟩
  · exact .inr hLanding
  · exact .inl (Fleet.underway_iff.2 ⟨other, machine, hMachine, hLanding⟩)

theorem registrations_ne (h : next.registrations = fleet.registrations) :
    next.registrations ≠ fleet.registrations ++ [landing] := by
  intro hNew
  rw [h] at hNew
  have hLength := congrArg List.length hNew
  rw [List.length_append, List.length_singleton] at hLength
  omega

/-- A connection that is underway was so before, or has registered its link by this event. -/
theorem Turn.underway_before (h : Turn fleet next) (hUnderway : next.Underway landing) :
    fleet.Underway landing ∨ next.registrations = fleet.registrations ++ [landing] := by
  cases h with
  | idle _ hMembers => exact .inl ((underway_of_members hMembers).1 hUnderway)
  | edit _ _ _ hMembers => exact .inl ((underway_of_members hMembers).1 hUnderway)
  | refuse _ _ _ _ _ hMembers => exact .inl ((underway_of_members hMembers).1 hUnderway)
  | join machine _ hMembers _ hLanding =>
    obtain ⟨other, hMember, hOther⟩ := hUnderway
    rw [hMembers, List.mem_append, List.mem_singleton] at hMember
    rcases hMember with hOld | rfl
    · exact .inl ⟨other, hOld, hOther⟩
    · rw [hLanding] at hOther
      cases hOther
  | stay _ before after hMoved _ hSame =>
    rcases hMoved.underway_before hUnderway with hOld | hLanded
    · exact .inl hOld
    · rw [hSame] at hLanded
      exact .inl ⟨before, List.mem_of_getElem? hMoved.taken, hLanded⟩
  | land _ _ after _ hMoved _ _ hLanded hNew =>
    rcases hMoved.underway_before hUnderway with hOld | hOther
    · exact .inl hOld
    · rw [hLanded] at hOther
      rw [← Option.some.inj hOther]
      exact .inr hNew
  | leave _ _ _ _ hMoved _ _ hAfter =>
    rcases hMoved.underway_before hUnderway with hOld | hOther
    · exact .inl hOld
    · rw [hAfter] at hOther
      cases hOther

/-- **A connection ends only by removing its link.** -/
theorem Turn.underway (h : Turn fleet next) (hUnderway : fleet.Underway landing) :
    next.Underway landing ∨
      BoundBy fleet next (.removeIf landing.node landing.name landing.link) := by
  cases h with
  | idle _ hMembers => exact .inl ((underway_of_members hMembers).2 hUnderway)
  | edit _ _ _ hMembers => exact .inl ((underway_of_members hMembers).2 hUnderway)
  | refuse _ _ _ _ _ hMembers => exact .inl ((underway_of_members hMembers).2 hUnderway)
  | join machine _ hMembers =>
    obtain ⟨other, hMember, hLanding⟩ := hUnderway
    refine .inl ⟨other, ?_, hLanding⟩
    rw [hMembers]
    exact List.mem_append_left _ hMember
  | stay _ _ _ hTurn _ hSame =>
    refine .inl (hTurn.underway hUnderway ?_)
    intro hBefore
    rw [hSame, hBefore]
  | land _ _ _ _ hTurn _ hArriving =>
    refine .inl (hTurn.underway hUnderway ?_)
    intro hBefore
    rw [Machine.landing?_of_arriving? hArriving] at hBefore
    cases hBefore
  | leave _ before _ gone hTurn hBound hBefore =>
    by_cases hGone : landing = gone
    · rw [hGone]
      exact .inr hBound
    · refine .inl (hTurn.underway hUnderway ?_)
      intro hLanding
      rw [hBefore] at hLanding
      exact absurd (Option.some.inj hLanding).symm hGone

/-! ## Links of one connection each -/

/-- Connections have different links, at nodes that exist, and no link is registered twice. -/
structure Numbered (fleet : Fleet σ) : Prop where
  node : ∀ machine ∈ fleet.members, fleet.net.nodes.contains machine.node = true
  held : ∀ (number : Nat) (machine : Machine) (landing : Landing),
    fleet.members[number]? = some machine → Holds machine landing →
    fleet.net.nodes.contains landing.node = true ∧ landing.link < fleet.fresh
  alone : ∀ (number number' : Nat) (machine machine' : Machine) (landing landing' : Landing),
    fleet.members[number]? = some machine → fleet.members[number']? = some machine' →
    Holds machine landing → Holds machine' landing' → landing.link = landing'.link →
    number = number'
  given : ∀ landing ∈ fleet.registrations, landing.link < fleet.fresh
  waiting : ∀ (number : Nat) (machine : Machine) (landing : Landing),
    fleet.members[number]? = some machine → machine.arriving? = some landing →
    ∀ other ∈ fleet.registrations, other.link ≠ landing.link
  once : (fleet.registrations.map Landing.link).Nodup
  listed : ∀ landing, fleet.Underway landing → landing ∈ fleet.registrations

theorem numbered_start (links : σ) : Numbered (start links) := by
  refine ⟨?_, ?_, ?_, ?_, ?_, ?_, ?_⟩
  · exact List.forall_mem_nil _
  · intro number machine landing hMachine
    cases hMachine
  · intro number number' machine machine' landing landing' hMachine
    cases hMachine
  · exact List.forall_mem_nil _
  · intro number machine landing hMachine
    cases hMachine
  · exact List.nodup_nil
  · rintro landing ⟨machine, hMachine, _⟩
    cases hMachine

theorem Numbered.alone_inherits (h : Numbered fleet) (hInherits : Inherits fleet next number)
    {other other' : Nat} {machine machine' : Machine} {landing landing' : Landing}
    (hMachine : next.members[other]? = some machine)
    (hMachine' : next.members[other']? = some machine') (hHolds : Holds machine landing)
    (hHolds' : Holds machine' landing') (hLink : landing.link = landing'.link) :
    other = other' := by
  rcases hInherits.held other machine landing hMachine hHolds with
    ⟨earlier, hEarlier, hOld⟩ | ⟨hHere, hFresh⟩
  · rcases hInherits.held other' machine' landing' hMachine' hHolds' with
      ⟨earlier', hEarlier', hOld'⟩ | ⟨_, hFresh'⟩
    · exact h.alone other other' earlier earlier' landing landing' hEarlier hEarlier' hOld hOld'
        hLink
    · have hLess := (h.held other earlier landing hEarlier hOld).2
      rw [hLink] at hLess
      exact absurd hLess (Nat.not_lt.2 hFresh'.least)
  · rcases hInherits.held other' machine' landing' hMachine' hHolds' with
      ⟨earlier', hEarlier', hOld'⟩ | ⟨hHere', _⟩
    · have hLess := (h.held other' earlier' landing' hEarlier' hOld').2
      rw [← hLink] at hLess
      exact absurd hLess (Nat.not_lt.2 hFresh.least)
    · rw [hHere, hHere']

/-- A link that is going to be registered was not registered before the event. -/
theorem Numbered.waiting_inherits (h : Numbered fleet) (hInherits : Inherits fleet next number)
    {other : Nat} (hMachine : next.members[other]? = some machine)
    (hArriving : machine.arriving? = some landing) :
    ∀ registered ∈ fleet.registrations, registered.link ≠ landing.link := by
  intro registered hRegistered
  rcases hInherits.arriving other machine landing hMachine hArriving with
    ⟨earlier, hEarlier, hOld⟩ | hFresh
  · exact h.waiting other earlier landing hEarlier hOld registered hRegistered
  · exact Nat.ne_of_lt (Nat.lt_of_lt_of_le (h.given registered hRegistered) hFresh.least)

/-- A registration is that of a link that was going to be registered. -/
theorem Turn.registrations_cases (h : Turn fleet next) :
    next.registrations = fleet.registrations ∨
      ∃ number before after landing, Succeeds fleet next number before after ∧
        before.arriving? = some landing ∧ after.landing? = some landing ∧
        next.registrations = fleet.registrations ++ [landing] := by
  cases h with
  | idle _ _ hSame => exact .inl hSame
  | join _ _ _ hSame => exact .inl hSame
  | edit _ _ _ _ hSame => exact .inl hSame
  | refuse _ _ _ _ _ _ hSame => exact .inl hSame
  | stay _ _ _ _ _ _ hSame => exact .inl hSame
  | leave _ _ _ _ _ _ _ _ hSame => exact .inl hSame
  | land number before after landing hTurn _ hArriving hLanding hNew =>
    exact .inr ⟨number, before, after, landing, hTurn, hArriving, hLanding, hNew⟩

theorem Numbered.turn (h : Numbered fleet) (hTurn : Turn fleet next) (hKeeps : Keeps fleet next) :
    Numbered next := by
  obtain ⟨number, hInherits⟩ := hTurn.inherits h.node
  refine ⟨fun machine hMember => hKeeps.nodes _ (hInherits.node machine hMember), ?_,
    fun _ _ _ _ _ _ => h.alone_inherits hInherits, ?_, ?_, ?_, ?_⟩
  · intro other machine landing hMachine hHolds
    rcases hInherits.held other machine landing hMachine hHolds with
      ⟨earlier, hEarlier, hOld⟩ | ⟨_, hFresh⟩
    · obtain ⟨hNode, hLess⟩ := h.held other earlier landing hEarlier hOld
      exact ⟨hKeeps.nodes _ hNode, Nat.lt_of_lt_of_le hLess hKeeps.fresh⟩
    · exact ⟨hKeeps.nodes _ hFresh.node, hFresh.less⟩
  · intro landing hLanding
    apply Nat.lt_of_lt_of_le _ hKeeps.fresh
    rcases hTurn.registrations_cases with hSame | ⟨_, before, _, _, hMoved, hArriving, _, hNew⟩
    · rw [hSame] at hLanding
      exact h.given landing hLanding
    · rw [hNew, List.mem_append, List.mem_singleton] at hLanding
      rcases hLanding with hOld | rfl
      · exact h.given landing hOld
      · exact (h.held _ before landing hMoved.taken (.inl hArriving)).2
  · intro other machine landing hMachine hArriving registered hRegistered
    have hOld := h.waiting_inherits hInherits hMachine hArriving
    rcases hTurn.registrations_cases with hSame | ⟨_, _, after, _, hMoved, _, hLanded, hNew⟩
    · rw [hSame] at hRegistered
      exact hOld registered hRegistered
    · rw [hNew, List.mem_append, List.mem_singleton] at hRegistered
      rcases hRegistered with hEarlier | rfl
      · exact hOld registered hEarlier
      · -- the link that was registered just now is not going to be registered again
        intro hLink
        obtain rfl := h.alone_inherits hInherits hMoved.member_number hMachine (.inr hLanded)
          (.inl hArriving) hLink
        obtain rfl := Option.some.inj (hMoved.member_number.symm.trans hMachine)
        rw [Machine.landing?_of_arriving? hArriving] at hLanded
        cases hLanded
  · rcases hTurn.registrations_cases with
      hSame | ⟨_, before, _, landing, hMoved, hArriving, _, hNew⟩
    · rw [hSame]
      exact h.once
    · rw [hNew, List.map_append, List.nodup_append]
      refine ⟨h.once, List.pairwise_singleton _ _, ?_⟩
      intro link hLink other hOther
      obtain ⟨registered, hRegistered, rfl⟩ := List.mem_map.1 hLink
      rw [List.map_singleton, List.mem_singleton] at hOther
      rw [hOther]
      exact h.waiting _ before landing hMoved.taken hArriving registered hRegistered
  · intro landing hUnderway
    rcases hTurn.underway_before hUnderway with hOld | hNew
    · have hListed := h.listed landing hOld
      rcases hTurn.registrations_cases with hSame | ⟨_, _, _, _, _, _, _, hNew⟩
      · rw [hSame]
        exact hListed
      · rw [hNew]
        exact List.mem_append_left _ hListed
    · rw [hNew]
      exact List.mem_append_right _ (List.mem_singleton_self _)

/-- A link was registered under one name only. -/
theorem Numbered.eq_of_link (h : Numbered fleet) {landing' : Landing}
    (hLanding : landing ∈ fleet.registrations) (hLanding' : landing' ∈ fleet.registrations)
    (hLink : landing.link = landing'.link) : landing = landing' :=
  List.inj_on_of_nodup_map h.once hLanding hLanding' hLink

/-! ## What is bound -/

/-- Whatever is bound belongs to a connection that is underway, or was bound by an explicit
operation. -/
def Accounted (fleet : Fleet σ) : Prop :=
  ∀ id name link, fleet.net.linkAt id name = some link → fleet.Underway ⟨id, name, link⟩ ∨
    ∃ operation, .edited operation ∈ fleet.history ∧ operation.binding? = some ⟨id, name, link⟩

theorem Accounted.turn (h : Accounted fleet) (hTurn : Turn fleet next) (hKeeps : Keeps fleet next) :
    Accounted next := by
  intro id name link hLink
  -- what was bound before is accounted for unless it is removed now
  have hOld : fleet.net.linkAt id name = some link →
      next.Underway ⟨id, name, link⟩ ∨ ∃ operation, .edited operation ∈ next.history ∧
        operation.binding? = some ⟨id, name, link⟩ := by
    intro hBefore
    rcases h id name link hBefore with hUnderway | ⟨operation, hEdited, hBinding⟩
    · rcases hTurn.underway hUnderway with hNext | hRemoved
      · exact .inl hNext
      · rw [hRemoved id name, Network.linkAt_removeIf, if_pos ⟨⟨rfl, rfl⟩, hBefore⟩] at hLink
        cases hLink
    · exact .inr ⟨operation, hKeeps.history _ hEdited, hBinding⟩
  cases hTurn with
  | idle hSame => exact hOld ((hSame id name).symm.trans hLink)
  | join _ hSame => exact hOld ((hSame id name).symm.trans hLink)
  | stay _ _ _ _ hSame => exact hOld ((hSame id name).symm.trans hLink)
  | edit operation hEdited hBound =>
    rw [hBound id name] at hLink
    rcases Network.binding_of_perform hLink with hBefore | ⟨hBinding, _⟩
    · exact hOld hBefore
    · exact .inr ⟨operation, hEdited, hBinding⟩
  | refuse _ _ _ _ hBound =>
    rw [hBound id name] at hLink
    exact hOld (Network.linkAt_of_removeIf hLink).1
  | leave _ _ _ _ _ hBound =>
    rw [hBound id name] at hLink
    exact hOld (Network.linkAt_of_removeIf hLink).1
  | land _ _ after landing hMoved hBound _ hLanded =>
    rw [hBound id name] at hLink
    rcases Network.linkAt_of_replace hLink with hBefore | ⟨rfl, rfl, rfl⟩
    · exact hOld hBefore
    · exact .inl (hMoved.underway_iff.2 (.inl hLanded))

/-! ## Who has the name -/

/-- No explicit operation was about this name. -/
def Quiet (fleet : Fleet σ) (id : NodeId) (name : String) : Prop :=
  ∀ operation, .edited operation ∈ fleet.history → operation.edits? ≠ some (id, name)

/-- A name follows the connections that register under it. -/
structure Follows (fleet : Fleet σ) (id : NodeId) (name : String) : Prop where
  latest : ∀ link, fleet.net.linkAt id name = some link → fleet.latest? id name = some link
  bound : ∀ link, fleet.latest? id name = some link → fleet.Underway ⟨id, name, link⟩ →
    fleet.net.linkAt id name = some link ∨ .refused link ∈ fleet.history

theorem Follows.of_same {id : NodeId} {name : String} (h : Follows fleet id name)
    (hKeeps : Keeps fleet next) (hSame : next.net.linkAt id name = fleet.net.linkAt id name)
    (hRegistrations : next.registrations = fleet.registrations)
    (hUnderway : ∀ landing, next.Underway landing → fleet.Underway landing) :
    Follows next id name := by
  refine ⟨?_, ?_⟩
  · intro link hLink
    rw [hSame] at hLink
    rw [latest?_of_registrations hRegistrations]
    exact h.latest link hLink
  · intro link hLatest hNext
    rw [latest?_of_registrations hRegistrations] at hLatest
    rw [hSame]
    exact (h.bound link hLatest (hUnderway _ hNext)).imp_right (hKeeps.history _)

/-- A link that has asked for it is removed. -/
theorem Follows.refuse {id : NodeId} {name : String} (h : Follows fleet id name)
    (hKeeps : Keeps fleet next) {node : NodeId} {under : String} {refused : LinkId}
    (hRefused : .refused refused ∈ fleet.history)
    (hBound : BoundBy fleet next (.removeIf node under refused))
    (hMembers : next.members = fleet.members)
    (hRegistrations : next.registrations = fleet.registrations) : Follows next id name := by
  refine ⟨?_, ?_⟩
  · intro link hLink
    rw [hBound id name] at hLink
    rw [latest?_of_registrations hRegistrations]
    exact h.latest link (Network.linkAt_of_removeIf hLink).1
  · intro link hLatest hNext
    rw [latest?_of_registrations hRegistrations] at hLatest
    rw [underway_of_members hMembers] at hNext
    rcases h.bound link hLatest hNext with hLink | hOld
    · rw [hBound id name, Network.linkAt_removeIf]
      split
      · rename_i hHere
        obtain ⟨⟨rfl, rfl⟩, hSame⟩ := hHere
        rw [hLink, Option.some.injEq] at hSame
        rw [hSame]
        exact .inr (hKeeps.history _ hRefused)
      · exact .inl hLink
    · exact .inr (hKeeps.history _ hOld)

/-- A connection that registers takes the name over. -/
theorem Follows.land {id : NodeId} {name : String} (hName : Path.isLinkName name = true)
    (h : Follows fleet id name) (hNumbered : Numbered fleet) (hKeeps : Keeps fleet next)
    (hMoved : Succeeds fleet next number before after)
    (hBound : BoundBy fleet next (.replace landing.node landing.name landing.link))
    (hArriving : before.arriving? = some landing) (hLanded : after.landing? = some landing)
    (hNew : next.registrations = fleet.registrations ++ [landing]) : Follows next id name := by
  by_cases hHere : landing.node = id ∧ landing.name = name
  · obtain ⟨rfl, rfl⟩ := hHere
    have hNode := (hNumbered.held number before landing hMoved.taken (.inl hArriving)).1
    have hLink : next.net.linkAt landing.node landing.name = some landing.link := by
      rw [hBound, Network.linkAt_replace, if_pos ⟨⟨rfl, rfl⟩, hNode, hName⟩]
    have hLatest : next.latest? landing.node landing.name = some landing.link := by
      rw [latest?_append hNew, if_pos ⟨rfl, rfl⟩]
    refine ⟨?_, ?_⟩
    · intro link hOther
      rw [hLatest, ← hLink]
      exact hOther
    · intro link hOther _
      rw [hLink, ← hLatest]
      exact .inl hOther
  · have hSame : next.net.linkAt id name = fleet.net.linkAt id name := by
      rw [hBound, Network.linkAt_replace, if_neg fun hThere => hHere hThere.1]
    have hLatest : next.latest? id name = fleet.latest? id name := by
      rw [latest?_append hNew, if_neg hHere]
    refine ⟨?_, ?_⟩
    · intro link hLink
      rw [hSame] at hLink
      rw [hLatest]
      exact h.latest link hLink
    · intro link hOld hNext
      rw [hLatest] at hOld
      rw [hSame]
      rcases hMoved.underway_before hNext with hUnderway | hOther
      · exact (h.bound link hOld hUnderway).imp_right (hKeeps.history _)
      · rw [hLanded] at hOther
        rw [Option.some.inj hOther] at hHere
        exact absurd ⟨rfl, rfl⟩ hHere

/-- A connection that ends removes its link, and no other. -/
theorem Follows.leave {id : NodeId} {name : String} (h : Follows fleet id name)
    (hNumbered : Numbered fleet) (hKeeps : Keeps fleet next)
    (hMoved : Succeeds fleet next number before after)
    (hBound : BoundBy fleet next (.removeIf landing.node landing.name landing.link))
    (hBefore : before.landing? = some landing) (hAfter : after.landing? = none)
    (hRegistrations : next.registrations = fleet.registrations) : Follows next id name := by
  refine ⟨?_, ?_⟩
  · intro link hLink
    rw [hBound id name] at hLink
    rw [latest?_of_registrations hRegistrations]
    exact h.latest link (Network.linkAt_of_removeIf hLink).1
  · intro link hLatest hNext
    rw [latest?_of_registrations hRegistrations] at hLatest
    rw [hMoved.underway_iff, hAfter] at hNext
    obtain ⟨other, machine, hOther, hMachine, hLanding⟩ := hNext.resolve_left nofun
    rcases h.bound link hLatest (Fleet.underway_iff.2 ⟨other, machine, hMachine, hLanding⟩) with
      hLink | hOld
    · rw [hBound id name, Network.linkAt_removeIf]
      split
      · rename_i hHere
        obtain ⟨⟨rfl, rfl⟩, hSame⟩ := hHere
        rw [hLink, Option.some.injEq] at hSame
        exact absurd (hNumbered.alone other number machine before _ landing hMachine hMoved.taken
          (.inr hLanding) (.inr hBefore) hSame) hOther
      · exact .inl hLink
    · exact .inr (hKeeps.history _ hOld)

theorem Follows.turn {id : NodeId} {name : String} (hName : Path.isLinkName name = true)
    (h : Follows fleet id name) (hNumbered : Numbered fleet) (hTurn : Turn fleet next)
    (hKeeps : Keeps fleet next) (hQuiet : Quiet next id name) : Follows next id name := by
  have hBefore : ∀ landing, next.Underway landing → fleet.Underway landing ∨
      next.registrations = fleet.registrations ++ [landing] := fun _ => hTurn.underway_before
  cases hTurn with
  | idle hSame hMembers hRegistrations =>
    exact h.of_same hKeeps (hSame id name) hRegistrations fun _ => (underway_of_members hMembers).1
  | join machine hSame hMembers hRegistrations hLanding =>
    refine h.of_same hKeeps (hSame id name) hRegistrations ?_
    intro landing hNext
    exact (hBefore landing hNext).resolve_right (registrations_ne hRegistrations)
  | edit operation hEdited hBound hMembers hRegistrations =>
    refine h.of_same hKeeps ?_ hRegistrations fun _ => (underway_of_members hMembers).1
    rw [hBound, Network.linkAt_perform_of_ne (hQuiet operation hEdited)]
  | refuse _ _ _ hRefused hBound hMembers hRegistrations =>
    exact h.refuse hKeeps hRefused hBound hMembers hRegistrations
  | stay _ before after hMoved hSame hLanding hRegistrations =>
    refine h.of_same hKeeps (hSame id name) hRegistrations ?_
    intro landing hNext
    exact (hBefore landing hNext).resolve_right (registrations_ne hRegistrations)
  | land _ _ _ _ hMoved hBound hArriving hLanded hNew =>
    exact h.land hName hNumbered hKeeps hMoved hBound hArriving hLanded hNew
  | leave _ _ _ _ hMoved hBound hBefore hAfter hRegistrations =>
    exact h.leave hNumbered hKeeps hMoved hBound hBefore hAfter hRegistrations

/-! ## All histories -/

theorem Quiet.of_keeps {id : NodeId} {name : String} (h : Quiet next id name)
    (hKeeps : Keeps fleet next) : Quiet fleet id name :=
  fun operation hEdited => h operation (hKeeps.history _ hEdited)

theorem edits?_of_binding? {operation : Operation} (h : operation.binding? = some landing) :
    operation.edits? = some (landing.node, landing.name) := by
  cases operation with
  | add id name link | replace id name link =>
    cases h
    rfl
  | transmit id message deny | broadcast id message deny | remove id name
  | removeIf id name link => cases h

/-- What holds of every fleet that can be reached. -/
structure Sound (fleet : Fleet σ) : Prop where
  settled : Settled fleet
  numbered : Numbered fleet
  accounted : Accounted fleet
  follows : ∀ id name, Path.isLinkName name = true → Quiet fleet id name → Follows fleet id name

theorem sound_start (links : σ) : Sound (start links) := by
  refine ⟨List.forall_mem_nil _, numbered_start links, ?_, ?_⟩
  · intro id name link hLink
    cases hLink
  · intro id name _ _
    refine ⟨?_, ?_⟩
    · intro link hLink
      cases hLink
    · intro link hLatest
      cases hLatest

theorem Sound.step (h : Sound fleet) (event : Event) : Sound (fleet.step behaviour event) := by
  have hTurn := step_turn behaviour h.settled event
  have hKeeps := keeps_step behaviour fleet event
  refine ⟨settled_step behaviour h.settled event, h.numbered.turn hTurn hKeeps,
    h.accounted.turn hTurn hKeeps, ?_⟩
  intro id name hName hQuiet
  exact (h.follows id name hName (hQuiet.of_keeps hKeeps)).turn hName h.numbered hTurn hKeeps hQuiet

theorem sound_run (behaviour : Behaviour σ) (links : σ) (events : List Event) :
    Sound ((start links).run behaviour events) :=
  run_induction behaviour (fun _ event h => h.step event) (sound_start links) events

/-- **A name belongs to the connection that registered last.** Let connections register and end in
any order under a name that no explicit operation is about. Then the name is bound to the link of
the connection that registered last, and that one is underway, or to nothing. It is bound to nothing
only if that connection has ended, or if its link has asked to be removed. The end of an older
connection does not change the binding, and the link of a connection that has ended is not bound. -/
theorem name_follows_latest (behaviour : Behaviour σ) (links : σ) (events : List Event)
    {id : NodeId} {name : String} (hName : Path.isLinkName name = true)
    (hQuiet : Quiet ((start links).run behaviour events) id name) :
    let fleet := (start links).run behaviour events
    (fleet.registrations.map Landing.link).Nodup ∧
    (∀ link, fleet.net.linkAt id name = some link →
      fleet.latest? id name = some link ∧ fleet.Underway ⟨id, name, link⟩) ∧
    (∀ link, fleet.latest? id name = some link → fleet.net.linkAt id name = none →
      ¬fleet.Underway ⟨id, name, link⟩ ∨ .refused link ∈ fleet.history) ∧
    (∀ event link, fleet.Underway ⟨id, name, link⟩ →
      ¬(fleet.step behaviour event).Underway ⟨id, name, link⟩ → fleet.latest? id name ≠ some link →
      (fleet.step behaviour event).net.linkAt id name = fleet.net.linkAt id name) ∧
    (∀ landing ∈ fleet.registrations, ¬fleet.Underway landing →
      fleet.net.linkAt id name ≠ some landing.link ∧
        ∀ id' name', fleet.net.linkAt id' name' = some landing.link →
          ∃ operation, .edited operation ∈ fleet.history ∧
            operation.binding? = some ⟨id', name', landing.link⟩) := by
  intro fleet
  have h : Sound fleet := sound_run behaviour links events
  have hFollows := h.follows id name hName hQuiet
  have hUnderway : ∀ link, fleet.net.linkAt id name = some link →
      fleet.Underway ⟨id, name, link⟩ := by
    intro link hLink
    rcases h.accounted id name link hLink with hUnderway | ⟨operation, hEdited, hBinding⟩
    · exact hUnderway
    · exact absurd (edits?_of_binding? hBinding) (hQuiet operation hEdited)
  -- the landing of a registered link is the only one that is underway with this link
  have hEnded : ∀ landing ∈ fleet.registrations, ¬fleet.Underway landing → ∀ id' name',
      ¬fleet.Underway ⟨id', name', landing.link⟩ := by
    intro landing hLanding hEnded id' name' hOther
    have hSame := h.numbered.eq_of_link hLanding (h.numbered.listed _ hOther) rfl
    rw [← hSame] at hOther
    exact hEnded hOther
  refine ⟨h.numbered.once, ?_, ?_, ?_, ?_⟩
  · intro link hLink
    exact ⟨hFollows.latest link hLink, hUnderway link hLink⟩
  · intro link hLatest hNone
    by_cases hGoesOn : fleet.Underway ⟨id, name, link⟩
    · rcases hFollows.bound link hLatest hGoesOn with hLink | hRefused
      · rw [hNone] at hLink
        cases hLink
      · exact .inr hRefused
    · exact .inl hGoesOn
  · intro event link hGoesOn hGone hOlder
    rcases (step_turn behaviour h.settled event).underway hGoesOn with hNext | hRemoved
    · exact absurd hNext hGone
    · rw [hRemoved id name, Network.linkAt_removeIf, if_neg]
      rintro ⟨_, hLink⟩
      exact hOlder (hFollows.latest link hLink)
  · intro landing hLanding hGone
    refine ⟨?_, ?_⟩
    · intro hLink
      exact hEnded landing hLanding hGone id name (hUnderway _ hLink)
    · intro id' name' hLink
      exact (h.accounted id' name' _ hLink).resolve_left (hEnded landing hLanding hGone id' name')

/-- The client "robot" comes back as a connection that a server has accepted, before the end of its
first connection is noticed. -/
theorem reconnect_before_the_end :
    let behaviour : Behaviour Unit := fun _ _ _ => { links := () }
    let header (hint : Option String) := ((Wire.Header.mk hint).encode.toOption).getD []
    let events : List Event :=
      [.create 0, .request (.operate (.add 0 "lamp" 99)), .launch (.client 0 "robot" none {}),
        .proceed 0 false, .receive 0 .connected,
        .receive 0 (.received (header none)), .proceed 0 false,
        .launch (.accepted ⟨0, {}, 0, true⟩), .proceed 1 false,
        .receive 1 (.received (header (some "robot"))), .proceed 1 false,
        .proceed 0 false]
    let fleet := (start ()).run behaviour events
    let next := fleet.step behaviour (.receive 0 .endOfStream)
    fleet.registrations = [⟨0, "robot", 5⟩, ⟨0, "robot", 9⟩] ∧
      fleet.latest? 0 "robot" = some 9 ∧ fleet.net.linkAt 0 "robot" = some 9 ∧
      fleet.Underway ⟨0, "robot", 5⟩ ∧ ¬next.Underway ⟨0, "robot", 5⟩ ∧
      next.net.linkAt 0 "robot" = some 9 := by
  intro behaviour header events fleet next
  have hHistory : fleet.history = [.edited (.add 0 "lamp" 99), .registered ⟨0, "robot", 5⟩,
      .registered ⟨0, "robot", 9⟩] := by
    decide +kernel
  have hQuiet : Quiet fleet 0 "robot" := by
    intro operation hEdited
    rw [hHistory] at hEdited
    obtain rfl : operation = .add 0 "lamp" 99 := by simpa using hEdited
    decide
  have hBound : fleet.net.linkAt 0 "robot" = some 9 := by
    decide +kernel
  have hOlder : fleet.Underway ⟨0, "robot", 5⟩ := by
    decide +kernel
  have hEnded : ¬next.Underway ⟨0, "robot", 5⟩ := by
    decide +kernel
  obtain ⟨_, hLatest, _, hOld, _⟩ :=
    name_follows_latest behaviour () events (show Path.isLinkName "robot" = true by decide +kernel)
      hQuiet
  have hLast := (hLatest 9 hBound).1
  refine ⟨by decide +kernel, hLast, hBound, hOlder, hEnded, ?_⟩
  rw [← hBound]
  refine hOld _ 5 hOlder hEnded ?_
  rw [show Fleet.latest? _ 0 "robot" = some 9 from hLast]
  decide

end RobotBus.Transport.Fleet
