import Mathlib.Algebra.Group.Nat.Defs
import RobotBus.Proofs.Transport.NameTable
import RobotBus.Proofs.Transport.Overlap

/-!
# Guests of one server

The connections that one server accepts, among any other transports of a fleet. A lobby counts them
as guests, and keeps what each has sent until its header was complete, so that it is known which
hint it gave. The link of a guest is named by its hint, or by the number of the guest if there is no
usable hint (`Attentive.name_of_hosts`).

Generated names and hints come from one stock of names, and neither is kept from the other. So
`guests_share_names` tells when two guests have one name: both have asked for it, or one of them has
asked for the name that is generated for the other, or their numbers have come round to the same
one. `guests_not_kept_apart` shows that the second case occurs.
-/

namespace RobotBus.Transport

open Simulation (Machine)

variable {σ : Type}

/-! ## Accepted connections and their hints -/

/-- The name that is generated for the guest with an index. -/
def guestName (index : Nat) : String :=
  s!"client-{UInt64.ofNat index}"

/-- What an input adds to the header that is awaited. -/
def Accepted.heard (accepted : Accepted) (input : Input) : Bytes :=
  match accepted.stage, input with
  | .handshaking .., .received bytes => bytes
  | _, _ => []

/-- A connection that the server has accepted. -/
structure Guest where
  /-- Its number among the transports of the fleet. -/
  seat : Nat
  /-- What it has sent until its header was complete. -/
  sent : Bytes := []
deriving DecidableEq, Repr

namespace Guest

/-- The hint that a guest gave, if it can be a name. -/
def hint? (guest : Guest) : Option String :=
  match Wire.Header.decoder.decode guest.sent with
  | .item header _ => header.hint.filter Path.isLinkName
  | .incomplete _ | .malformed _ => none

def hear (guest : Guest) (bytes : Bytes) : Guest :=
  { guest with sent := guest.sent ++ bytes }

/-- What a guest has sent is in the buffer, and then in the name. -/
def Recalls (guest : Guest) (accepted : Accepted) : Prop :=
  match accepted.stage with
  | .greeting => guest.sent = []
  | .handshaking buffer _ => guest.sent = buffer
  | .connected connection => connection.name = guest.hint?.getD accepted.ownName
  | .ended => True

theorem hear_nil (guest : Guest) : guest.hear [] = guest := by
  rw [hear, List.append_nil]

theorem nameFor_eq (accepted : Accepted) (hint : Option String) :
    accepted.nameFor hint = (hint.filter Path.isLinkName).getD accepted.ownName := by
  cases hint with
  | none => rfl
  | some hint =>
    rw [Accepted.nameFor, Option.filter_some]
    split
    · rfl
    · rfl

variable {guest : Guest} {accepted : Accepted}

theorem Recalls.readHeader {bytes : Bytes} (h : guest.sent = bytes) (deadline now : Moment)
    (fresh : LinkId) : guest.Recalls (accepted.readHeader bytes deadline now fresh).1 := by
  rw [Accepted.readHeader]
  cases hDecode : Wire.Header.decoder.decode bytes with
  | item header rest =>
    show accepted.nameFor header.hint = guest.hint?.getD accepted.ownName
    rw [nameFor_eq, hint?, h, hDecode]
  | malformed cause => exact trivial
  | incomplete needed => exact h

theorem recalls_connected {connection : Connection} (h : accepted.connection? = some connection) :
    guest.Recalls accepted ↔ connection.name = guest.hint?.getD accepted.ownName := by
  rw [Accepted.connection?] at h
  split at h
  · rename_i hStage
    obtain rfl := Option.some.inj h
    rw [Recalls, hStage]
  · cases h

theorem Recalls.within (h : guest.Recalls accepted) {connection : Connection}
    (hConnection : accepted.connection? = some connection) {step : Connection × List Effect}
    (hStep : step.1.landing = connection.landing) : guest.Recalls (accepted.within step).1 := by
  have hName : step.1.name = connection.name := congrArg Landing.name hStep
  show step.1.name = guest.hint?.getD accepted.ownName
  rw [hName]
  exact (recalls_connected hConnection).1 h

theorem Recalls.proceed (h : guest.Recalls accepted) (now : Moment) (stopped : Bool) :
    guest.Recalls (accepted.proceed now stopped).1 := by
  have hProceeds := accepted.proceeds now stopped
  generalize accepted.proceed now stopped = step at hProceeds ⊢
  cases hProceeds with
  | finish | leave => exact trivial
  | greet bytes hStage =>
    rw [Recalls, hStage] at h
    exact h
  | @within connection hConnection _ =>
    exact h.within hConnection (connection.landing_proceed now stopped)
  | nothing => exact h

/-- **What a guest sends while its header is awaited ends up in the name of its link.** -/
theorem Recalls.receive (h : guest.Recalls accepted) (now : Moment) (fresh : LinkId)
    (input : Input) :
    (guest.hear (accepted.heard input)).Recalls (accepted.receive now fresh input).1 := by
  have hDeaf : accepted.heard input = [] →
      (guest.hear (accepted.heard input)).Recalls accepted := by
    intro hNothing
    rw [hNothing, hear_nil]
    exact h
  obtain ⟨node, number, config, stage⟩ := accepted
  cases stage with
  | greeting | ended => exact hDeaf rfl
  | connected connection =>
    have hRecalls := hDeaf rfl
    exact hRecalls.within rfl (connection.landing_receive now input)
  | handshaking buffer deadline =>
    cases input with
    | received bytes =>
      have hSent : (guest.hear bytes).sent = buffer ++ bytes := congrArg (· ++ bytes) h
      exact Recalls.readHeader hSent deadline now fresh
    | connected | refused cause => exact hDeaf rfl
    | stop | endOfStream | broken cause regular => exact trivial
    | time =>
      have hRecalls := hDeaf rfl
      show Recalls _ (if Timer.isDue deadline now then _ else _ : Accepted × List Effect).1
      split
      · exact trivial
      · exact hRecalls

end Guest

/-! ## Transports that take a step -/

namespace Fleet

/-- The transport that takes a step in an event. -/
def Event.mover? : Event → Option Nat
  | .proceed number _ | .receive number _ => some number
  | _ => none

/-- What an event adds to the header that is awaited by a transport. -/
def heard (fleet : Fleet σ) (seat : Nat) : Event → Bytes
  | .receive number input =>
    match fleet.members[seat]? with
    | some (.accepted accepted) => if number = seat then accepted.heard input else []
    | _ => []
  | _ => []

variable {behaviour : Behaviour σ} {fleet : Fleet σ} {event : Event} {seat : Nat}

theorem members_ask {request : Request} {next : Fleet σ} (h : fleet.ask request = .ok next) :
    next.members = fleet.members := by
  cases asks h with
  | nothing | operate | manage => rfl

/-- A transport stays as it is while it takes no step. -/
theorem member_step_of_ne {machine : Machine} (h : fleet.members[seat]? = some machine)
    (hMover : event.mover? ≠ some seat) :
    (fleet.step behaviour event).members[seat]? = some machine := by
  have hSet : ∀ number after, number ≠ seat →
      (fleet.members.set number after)[seat]? = some machine := by
    intro number after hNumber
    rw [List.getElem?_set_ne hNumber]
    exact h
  have hSteps := steps behaviour fleet event
  generalize fleet.step behaviour event = next at hSteps ⊢
  cases hSteps with
  | nothing | create | elapse | work => exact h
  | request hAsk =>
    rw [members_ask hAsk]
    exact h
  | launch =>
    have hLess := (List.getElem?_eq_some_iff.1 h).1
    show (fleet.members ++ _)[seat]? = _
    rw [List.getElem?_append_left hLess]
    exact h
  | @proceed number _ _ _ => exact hSet number _ fun hSame => hMover (congrArg some hSame)
  | @receive number _ _ _ => exact hSet number _ fun hSame => hMover (congrArg some hSame)

theorem heard_of_ne (hMover : event.mover? ≠ some seat) : fleet.heard seat event = [] := by
  cases event with
  | receive number input =>
    rw [heard]
    split
    · exact if_neg fun hSame => hMover (congrArg some hSame)
    · rfl
  | create | request | launch | elapse | work | proceed => rfl

/-- **What an event does to a guest.** -/
theorem guest_step {accepted : Accepted} {guest : Guest}
    (h : fleet.members[guest.seat]? = some (.accepted accepted)) (hRecalls : guest.Recalls accepted)
    (behaviour : Behaviour σ) (event : Event) :
    ∃ after : Accepted, (fleet.step behaviour event).members[guest.seat]? = some (.accepted after) ∧
      after.number = accepted.number ∧ (guest.hear (fleet.heard guest.seat event)).Recalls after := by
  have hLess := (List.getElem?_eq_some_iff.1 h).1
  by_cases hMover : event.mover? = some guest.seat
  · cases event with
    | create | request | launch | elapse | work => cases hMover
    | proceed number stopped =>
      obtain rfl := Option.some.inj hMover
      obtain ⟨stage, hStage⟩ := accepted.proceed_eq fleet.net.now stopped
      refine ⟨(accepted.proceed fleet.net.now stopped).1, ?_, by rw [hStage], ?_⟩
      · rw [step, h]
        exact List.getElem?_set_self hLess
      · exact guest.hear_nil.symm ▸ hRecalls.proceed fleet.net.now stopped
    | receive number input =>
      obtain rfl := Option.some.inj hMover
      obtain ⟨stage, hStage⟩ := accepted.receive_eq fleet.net.now fleet.fresh input
      refine ⟨(accepted.receive fleet.net.now fleet.fresh input).1, ?_, by rw [hStage], ?_⟩
      · rw [step, h]
        exact List.getElem?_set_self hLess
      · have hHeard : fleet.heard guest.seat (.receive guest.seat input) =
            accepted.heard input := by
          rw [heard, h]
          exact if_pos rfl
        rw [hHeard]
        exact hRecalls.receive fleet.net.now fleet.fresh input
  · rw [heard_of_ne hMover, Guest.hear_nil]
    exact ⟨accepted, member_step_of_ne h hMover, rfl, hRecalls⟩

/-- A transport that takes a step changes bindings only where it has a link, or is going to. -/
theorem holder_of_linkAt_step {id : NodeId} {name : String} (hMover : event.mover? = some seat)
    (hChanged : (fleet.step behaviour event).net.linkAt id name ≠ fleet.net.linkAt id name) :
    ∃ machine landing, fleet.members[seat]? = some machine ∧ Holds machine landing ∧
      landing.node = id ∧ landing.name = name := by
  have hSteps := steps behaviour fleet event
  generalize fleet.step behaviour event = next at hSteps hChanged
  cases hSteps with
  | nothing => exact absurd rfl hChanged
  | create | request | launch | elapse | work => cases hMover
  | @proceed number machine stopped hMachine =>
    obtain rfl := Option.some.inj hMover
    obtain ⟨landing, hHolds, hPlace⟩ := holder_of_linkAt_act fleet number
      (machine.moves_proceed _ stopped) (fun _ => Machine.landing?_of_proceed) hChanged
    exact ⟨machine, landing, hMachine, hHolds, hPlace⟩
  | @receive number machine input hMachine =>
    obtain rfl := Option.some.inj hMover
    obtain ⟨landing, hHolds, hPlace⟩ := holder_of_linkAt_act fleet number
      (machine.moves_receive _ false fleet.fresh input)
      (fun _ hLanding => .inl (Machine.landing?_of_receive hLanding)) hChanged
    exact ⟨machine, landing, hMachine, hHolds, hPlace⟩

instance (machine : Machine) (landing : Landing) : Decidable (Holds machine landing) :=
  inferInstanceAs (Decidable (_ ∨ _))

end Fleet

/-! ## Lobbies -/

/-- One server of a fleet, with its guests in the order in which they were accepted. -/
structure Lobby (σ : Type) where
  fleet : Fleet σ
  server : Server
  guests : List Guest := []

namespace Lobby

inductive Event
  | accept
  | other (event : Fleet.Event)
deriving DecidableEq, Repr

/-- A server before it accepts connections. -/
def start (links : σ) (node : NodeId) (config : Config) : Lobby σ where
  fleet := .start links
  server := { node, config }

/-- A server accepts connections as long as there is its node. -/
def step (behaviour : Behaviour σ) (lobby : Lobby σ) : Event → Lobby σ
  | .accept =>
    if lobby.fleet.net.nodes.contains lobby.server.node then
      { fleet := lobby.fleet.step behaviour (.launch (.accepted lobby.server))
        server := lobby.server.accept.1
        guests := lobby.guests ++ [{ seat := lobby.fleet.members.length }] }
    else lobby
  | .other event =>
    { lobby with
      fleet := lobby.fleet.step behaviour event
      guests := lobby.guests.map fun guest => guest.hear (lobby.fleet.heard guest.seat event) }

def run (behaviour : Behaviour σ) (lobby : Lobby σ) (events : List Event) : Lobby σ :=
  events.foldl (step behaviour) lobby

/-- The hint of a guest, if it can be a name. -/
def hint? (lobby : Lobby σ) (index : Nat) : Option String :=
  lobby.guests[index]?.bind Guest.hint?

/-- A guest has a connection that has not ended, with a link that is registered or is going to
be. -/
def Hosts (lobby : Lobby σ) (index : Nat) (landing : Landing) : Prop :=
  ∃ guest ∈ lobby.guests[index]?, ∃ machine ∈ lobby.fleet.members[guest.seat]?,
    Fleet.Holds machine landing

instance (lobby : Lobby σ) (index : Nat) (landing : Landing) :
    Decidable (lobby.Hosts index landing) :=
  inferInstanceAs (Decidable (∃ guest ∈ lobby.guests[index]?, _))

/-- A guest takes a step. -/
def Moves (lobby : Lobby σ) (index : Nat) (event : Fleet.Event) : Prop :=
  ∃ guest ∈ lobby.guests[index]?, event.mover? = some guest.seat

instance (lobby : Lobby σ) (index : Nat) (event : Fleet.Event) :
    Decidable (lobby.Moves index event) :=
  inferInstanceAs (Decidable (∃ guest ∈ lobby.guests[index]?, _))

/-- Guests are numbered as they come, and it is known what each has sent. -/
structure Attentive (lobby : Lobby σ) : Prop where
  count : lobby.server.acceptedCount = UInt64.ofNat lobby.guests.length
  seated : ∀ (index : Nat) (guest : Guest), lobby.guests[index]? = some guest →
    ∃ accepted : Accepted, lobby.fleet.members[guest.seat]? = some (.accepted accepted) ∧
      accepted.number = UInt64.ofNat index ∧ guest.Recalls accepted

variable {behaviour : Behaviour σ} {lobby : Lobby σ} {index : Nat} {landing : Landing}

theorem attentive_start (links : σ) (node : NodeId) (config : Config) :
    (start links node config).Attentive where
  count := rfl
  seated index guest hGuest := by cases hGuest

theorem Attentive.accept (h : lobby.Attentive) : (lobby.step behaviour .accept).Attentive := by
  rw [step]
  split
  · rename_i hNode
    have hFleet : lobby.fleet.step behaviour (.launch (.accepted lobby.server)) =
        { lobby.fleet with
          members := lobby.fleet.members ++ [.accepted lobby.server.accept.2]
          fresh := lobby.fleet.fresh + 2 } := if_pos hNode
    constructor
    · show lobby.server.acceptedCount + 1 = _
      rw [h.count, List.length_append, UInt64.ofNat_add]
      rfl
    · intro index guest hGuest
      have hNew : index < lobby.guests.length ∨ index = lobby.guests.length := by
        have hLess := (List.getElem?_eq_some_iff.1 hGuest).1
        rw [List.length_append, List.length_singleton] at hLess
        omega
      rw [hFleet]
      rcases hNew with hOld | rfl
      · rw [List.getElem?_append_left hOld] at hGuest
        obtain ⟨accepted, hMember, hAccepted⟩ := h.seated index guest hGuest
        have hLess := (List.getElem?_eq_some_iff.1 hMember).1
        refine ⟨accepted, ?_, hAccepted⟩
        rw [List.getElem?_append_left hLess]
        exact hMember
      · rw [List.getElem?_concat_length] at hGuest
        obtain rfl := Option.some.inj hGuest
        exact ⟨lobby.server.accept.2, List.getElem?_concat_length, h.count, rfl⟩
  · exact h

theorem Attentive.other (h : lobby.Attentive) (event : Fleet.Event) :
    (lobby.step behaviour (.other event)).Attentive := by
  constructor
  · show lobby.server.acceptedCount = UInt64.ofNat (lobby.guests.map _).length
    rw [List.length_map]
    exact h.count
  · intro index guest hGuest
    obtain ⟨earlier, hEarlier, rfl⟩ :
        ∃ earlier, lobby.guests[index]? = some earlier ∧
          earlier.hear (lobby.fleet.heard earlier.seat event) = guest :=
      Option.map_eq_some_iff.1 (List.getElem?_map.symm.trans hGuest)
    obtain ⟨accepted, hMember, hNumber, hRecalls⟩ := h.seated index earlier hEarlier
    obtain ⟨after, hAfter, hSame, hHeard⟩ :=
      Fleet.guest_step hMember hRecalls behaviour event
    exact ⟨after, hAfter, hSame.trans hNumber, hHeard⟩

theorem Attentive.run (h : lobby.Attentive) (behaviour : Behaviour σ) (events : List Event) :
    (lobby.run behaviour events).Attentive := by
  induction events generalizing lobby with
  | nil => exact h
  | cons event events ih =>
    cases event with
    | accept => exact ih h.accept
    | other event => exact ih (h.other event)

/-! ## Names of guests -/

/-- **A guest is called by its hint**, or by its number if there is no usable hint. -/
theorem Attentive.name_of_hosts (h : lobby.Attentive) (hHosts : lobby.Hosts index landing) :
    landing.name = (lobby.hint? index).getD (guestName index) := by
  obtain ⟨guest, hGuest, machine, hMachine, hHolds⟩ := hHosts
  obtain ⟨accepted, hMember, hNumber, hRecalls⟩ := h.seated index guest hGuest
  obtain rfl := Option.some.inj (hMachine.symm.trans hMember)
  have hPlace : Machine.place? (.accepted accepted) = some (landing.node, landing.name) := by
    rcases hHolds with hArriving | hLanding
    · exact Machine.place?_of_arriving? hArriving
    · exact Machine.place?_of_landing? hLanding
  obtain ⟨connection, hConnection, hSame⟩ := Option.map_eq_some_iff.1 hPlace
  have hName := (Guest.recalls_connected hConnection).1 hRecalls
  rw [Accepted.ownName, hNumber] at hName
  rw [hint?, Option.mem_def.1 hGuest, ← (Prod.mk.inj hSame).2, hName]
  rfl

/-- Different numbers give different names, and numbers have 64 bits. -/
theorem eq_of_guestName {index' : Nat} (h : guestName index = guestName index') :
    index % 2 ^ 64 = index' % 2 ^ 64 := by
  have hList : ∀ index, (guestName index).toList =
      "client-".toList ++ Nat.toDigits 10 (UInt64.ofNat index).toNat := by
    intro index
    show ("client-" ++ Nat.repr (UInt64.ofNat index).toNat).toList = _
    rw [String.toList_append, Nat.toList_repr]
  have hDigits : Nat.toDigits 10 (UInt64.ofNat index).toNat =
      Nat.toDigits 10 (UInt64.ofNat index').toNat := by
    have hSame := congrArg String.toList h
    rw [hList, hList] at hSame
    exact List.append_cancel_left hSame
  have hNumber : (UInt64.ofNat index).toNat = (UInt64.ofNat index').toNat := by
    have hRead := congrArg (Nat.ofDigitChars 10 · 0) hDigits
    simpa only [Nat.ofDigitChars_ten_toDigits] using hRead
  rw [UInt64.toNat_ofNat', UInt64.toNat_ofNat'] at hNumber
  exact hNumber

/-- A guest has the name that is generated for another one: it has asked for that, or its number has
come round to the same one. -/
def HasNameOf (lobby : Lobby σ) (index index' : Nat) : Prop :=
  lobby.hint? index = some (guestName index') ∨
    lobby.hint? index = none ∧ index % 2 ^ 64 = index' % 2 ^ 64

/-- Why two guests have one name. -/
def Share (lobby : Lobby σ) (index index' : Nat) (name : String) : Prop :=
  lobby.hint? index = some name ∧ lobby.hint? index' = some name ∨
    lobby.hint? index' = none ∧ lobby.HasNameOf index index' ∨
    lobby.hint? index = none ∧ lobby.HasNameOf index' index

theorem Attentive.hasNameOf (h : lobby.Attentive) (hHosts : lobby.Hosts index landing)
    {index' : Nat} (hName : landing.name = guestName index') : lobby.HasNameOf index index' := by
  have hOwn := h.name_of_hosts hHosts
  cases hHint : lobby.hint? index with
  | none =>
    rw [hHint] at hOwn
    exact .inr ⟨hHint, eq_of_guestName (hOwn.symm.trans hName)⟩
  | some hint =>
    rw [hHint] at hOwn
    left
    rw [hHint, ← hName]
    exact congrArg some hOwn.symm

theorem Attentive.share (h : lobby.Attentive) {index' : Nat} {landing' : Landing}
    (hHosts : lobby.Hosts index landing) (hHosts' : lobby.Hosts index' landing')
    (hSame : landing.name = landing'.name) : lobby.Share index index' landing.name := by
  have hName := h.name_of_hosts hHosts
  have hName' := hSame.trans (h.name_of_hosts hHosts')
  cases hHint' : lobby.hint? index' with
  | none =>
    rw [hHint'] at hName'
    exact .inr (.inl ⟨hHint', h.hasNameOf hHosts hName'⟩)
  | some hint' =>
    rw [hHint'] at hName'
    cases hHint : lobby.hint? index with
    | none =>
      rw [hHint] at hName
      exact .inr (.inr ⟨hHint, h.hasNameOf hHosts' (hSame.symm.trans hName)⟩)
    | some hint =>
      rw [hHint] at hName
      exact .inl ⟨hHint.trans (congrArg some hName.symm), hHint'.trans (congrArg some hName'.symm)⟩

/-- **Guests have one name only if they share it** by their hints or numbers. So a guest without a
usable hint changes the binding of another guest only if that one has the name that is generated for
the first one. -/
theorem guests_share_names (behaviour : Behaviour σ) (links : σ) (node : NodeId) (config : Config)
    (events : List Event) :
    let lobby := (start links node config).run behaviour events
    (∀ index index' landing landing', lobby.Hosts index landing → lobby.Hosts index' landing' →
      landing.name = landing'.name → lobby.Share index index' landing.name) ∧
    ∀ index index' event landing', lobby.Moves index event → lobby.hint? index = none →
      lobby.Hosts index' landing' →
      (lobby.fleet.step behaviour event).net.linkAt landing'.node landing'.name ≠
        lobby.fleet.net.linkAt landing'.node landing'.name →
      lobby.HasNameOf index' index := by
  intro lobby
  have hAttentive : lobby.Attentive := (attentive_start links node config).run behaviour events
  constructor
  · intro index index' landing landing' hHosts hHosts' hSame
    exact hAttentive.share hHosts hHosts' hSame
  · rintro index index' event landing' ⟨guest, hGuest, hMover⟩ hHint hHosts' hChanged
    obtain ⟨machine, landing, hMachine, hHolds, -, hSame⟩ :=
      Fleet.holder_of_linkAt_step hMover hChanged
    have hHosts : lobby.Hosts index landing := ⟨guest, hGuest, machine, hMachine, hHolds⟩
    have hName := hAttentive.name_of_hosts hHosts
    rw [hHint] at hName
    exact hAttentive.hasNameOf hHosts' (hSame.symm.trans hName)

/-! ## A hint for a generated name -/

/-- The header of a guest. -/
def greeting (hint : Option String) : Bytes :=
  ((Wire.Header.mk hint).encode.toOption).getD []

def idle : Behaviour Unit := fun _ _ _ => { links := () }

/-- The first guest asks for the name that is generated for the second one, and registers its link.
The second guest gives no hint, and comes just before it registers its link. -/
def clashing : List Event :=
  [.other (.create 0), .accept, .other (.proceed 0 false),
    .other (.receive 0 (.received (greeting (some "client-1")))), .other (.proceed 0 false),
    .accept, .other (.proceed 1 false), .other (.receive 1 (.received (greeting none)))]

def clash : Lobby Unit :=
  (start () 0 {}).run idle clashing

/-- Both guests have the same name, and the second one takes it over with its next step. -/
theorem state_clash :
    clash.Hosts 0 ⟨0, "client-1", 2⟩ ∧ clash.Hosts 1 ⟨0, "client-1", 6⟩ ∧ clash.hint? 1 = none ∧
      clash.Moves 1 (.proceed 1 false) ∧ clash.fleet.net.linkAt 0 "client-1" = some 2 ∧
      (clash.fleet.step idle (.proceed 1 false)).net.linkAt 0 "client-1" = some 6 := by
  decide +kernel

/-- A guest can have the name of another one that has given no hint, and can lose it to that one. -/
theorem guests_not_kept_apart :
    (¬∀ (events : List Event) (index index' : Nat) (landing landing' : Landing),
      let lobby := (start () 0 {}).run idle events
      index ≠ index' → lobby.Hosts index landing → lobby.Hosts index' landing' →
      landing.name = landing'.name →
        lobby.hint? index = some landing.name ∧ lobby.hint? index' = some landing.name) ∧
    ¬∀ (events : List Event) (index index' : Nat) (event : Fleet.Event) (landing' : Landing),
      let lobby := (start () 0 {}).run idle events
      index ≠ index' → lobby.Moves index event → lobby.hint? index = none →
      lobby.Hosts index' landing' →
        (lobby.fleet.step idle event).net.linkAt landing'.node landing'.name =
          lobby.fleet.net.linkAt landing'.node landing'.name := by
  obtain ⟨hFirst, hSecond, hNone, hMoves, hBefore, hAfter⟩ := state_clash
  constructor
  · intro h
    have hHint := (h clashing 0 1 _ _ (by decide) hFirst hSecond rfl).2
    cases hNone.symm.trans hHint
  · intro h
    have hSame := h clashing 1 0 _ _ (by decide) hMoves hNone hFirst
    cases hAfter.symm.trans (hSame.trans hBefore)

theorem hint_for_a_generated_name :
    clash.Hosts 0 ⟨0, "client-1", 2⟩ ∧ clash.Hosts 1 ⟨0, "client-1", 6⟩ ∧
      clash.Share 0 1 "client-1" ∧ clash.Moves 1 (.proceed 1 false) ∧ clash.hint? 1 = none ∧
      clash.fleet.net.linkAt 0 "client-1" = some 2 ∧
      (clash.fleet.step idle (.proceed 1 false)).net.linkAt 0 "client-1" = some 6 ∧
      clash.HasNameOf 0 1 := by
  obtain ⟨hFirst, hSecond, hNone, hMoves, hBefore, hAfter⟩ := state_clash
  obtain ⟨hShare, hTaken⟩ := guests_share_names idle () 0 {} clashing
  have hChanged : (clash.fleet.step idle (.proceed 1 false)).net.linkAt 0 "client-1" ≠
      clash.fleet.net.linkAt 0 "client-1" := by
    rw [hBefore, hAfter]
    decide
  refine ⟨hFirst, hSecond, ?_, hMoves, hNone, hBefore, hAfter, ?_⟩
  · exact hShare 0 1 _ _ hFirst hSecond rfl
  · exact hTaken 1 0 _ _ hMoves hNone hFirst hChanged

end Lobby

end RobotBus.Transport
