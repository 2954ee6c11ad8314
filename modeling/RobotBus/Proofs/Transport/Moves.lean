import RobotBus.Proofs.Routing.Bridge
import RobotBus.Proofs.Transport.Stages
import RobotBus.Simulation.Job

/-!
# What transports do to nodes

A transport registers a link, hands on frames, and removes its link. Its landing is the link that it
has registered at the moment. `Moves` lists all that one step can do, with the landing before and
after it; `Machine.moves_proceed` and `Machine.moves_receive` say that this is all, for connections,
clients and accepted connections. A transport that was stopped registers nothing and hands on
nothing (`Moves.isRemoval`), and one that has ended does not move any more.
-/

namespace RobotBus.Transport

open Simulation (Machine)

/-! ## Moves -/

/-- The operations among effects, in order. -/
def operations (effects : List Effect) : List Operation :=
  effects.filterMap fun
    | .perform operation => some operation
    | _ => none

/-- The states that effects publish, in order. -/
def published (effects : List Effect) : List State :=
  effects.filterMap fun
    | .publish state => some state
    | _ => none

/-- A message is handed to a node. -/
def IsTransmission (operation : Operation) : Prop :=
  ∃ node message deny, operation = .transmit node message deny

/-- What a step of a transport does to the nodes, between the link that it has registered before
and the one that it has registered afterwards. A transport that was stopped can only leave. -/
inductive Moves (stopped : Bool) : Option Landing → List Operation → Option Landing → Prop
  | stay (landing : Option Landing) : Moves stopped landing [] landing
  | speak (landing : Landing) {operation : Operation} :
    stopped = false → IsTransmission operation →
    Moves stopped (some landing) [operation] (some landing)
  | land (landing : Landing) {operations : List Operation} :
    stopped = false → (∀ operation ∈ operations, IsTransmission operation) →
    Moves stopped none (.replace landing.node landing.name landing.link :: operations)
      (some landing)
  | leave (landing : Landing) :
    Moves stopped (some landing) [.removeIf landing.node landing.name landing.link] none

theorem operations_append (effects effects' : List Effect) :
    operations (effects ++ effects') = operations effects ++ operations effects' :=
  List.filterMap_append

theorem operations_notes (notices : List Notice) : operations (notices.map .note) = [] := by
  rw [operations, List.filterMap_map, List.filterMap_eq_nil_iff]
  intro notice _
  rfl

theorem published_append (effects effects' : List Effect) :
    published (effects ++ effects') = published effects ++ published effects' :=
  List.filterMap_append

namespace Connection

variable {connection : Connection}

/-- Where the link of a connection belongs. -/
def landing (connection : Connection) : Landing :=
  ⟨connection.node, connection.name, connection.ends.link⟩

/-- The link that a connection has registered. -/
def landing? (connection : Connection) : Option Landing :=
  match connection.stage with
  | .reading | .dispatched .. | .waiting _ => some connection.landing
  | .opening | .ended _ => none

theorem landing?_of_isEnded (h : connection.isEnded = true) : connection.landing? = none := by
  rw [isEnded] at h
  split at h
  · rename_i state hStage
    rw [landing?, hStage]
  · cases h

theorem moves_finish {stopped : Bool} (h : connection.landing? = some connection.landing)
    (state : State) (notice : Notice) :
    Moves stopped connection.landing? (operations (connection.finish state notice).2)
      (connection.finish state notice).1.landing? := by
  rw [h]
  exact .leave connection.landing

theorem moves_register (h : connection.stage = .opening) :
    Moves false connection.landing? (operations connection.register.2)
      connection.register.1.landing? := by
  have hBefore : connection.landing? = none := by
    rw [landing?, h]
  rw [hBefore, register]
  split
  · cases connection.announces with
    | true =>
      have hAnnouncement : ∀ operation ∈ [announcement connection.node],
          IsTransmission operation := by
        intro operation hOperation
        rw [List.mem_singleton.1 hOperation]
        exact ⟨_, _, _, rfl⟩
      exact .land connection.landing rfl hAnnouncement
    | false => exact .land connection.landing rfl nofun
  · exact .stay none

theorem moves_read (h : connection.landing? = some connection.landing) (now : Moment) :
    Moves false connection.landing? (operations (connection.read now).2)
      (connection.read now).1.landing? := by
  rw [read]
  split
  · rename_i frame rest _
    rw [h, dispatch, operations_append, operations_notes, List.nil_append]
    exact .speak connection.landing rfl ⟨_, _, _, rfl⟩
  · exact moves_finish h _ _
  · rw [h]
    exact .stay (some connection.landing)

/-- What a connection does by itself: it registers, hands on frames, and leaves. -/
theorem Proceeds.moves {now : Moment} {stopped : Bool} {step : Connection × List Effect}
    (h : connection.Proceeds now stopped step) :
    Moves stopped connection.landing? (operations step.2) step.1.landing? := by
  cases h with
  | giveUp hStage =>
    rw [landing?, hStage]
    exact .stay none
  | register hStage => exact moves_register hStage
  | finish hStage => exact moves_finish (by rw [landing?, hStage]) _ _
  | read hStage => exact moves_read (by rw [landing?, hStage]) now
  | @goOn _ frame since hStage =>
    have hNone : operations (connection.slowness frame since now) = [] := by
      rw [slowness]
      split <;> rfl
    rw [landing?, hStage, hNone]
    exact .stay (some connection.landing)
  | nothing => exact .stay connection.landing?

/-- With an input, a connection leaves or goes on without a word. -/
theorem Receives.moves {stopped : Bool} {step : Connection × List Effect}
    (h : connection.Receives step) :
    Moves stopped connection.landing? (operations step.2) step.1.landing? := by
  cases h with
  | finish notice hStage => exact moves_finish (by rw [landing?, hStage]) _ _
  | resume buffer notices hStage =>
    rw [landing?, hStage, operations_notes]
    exact .stay (some connection.landing)
  | nothing => exact .stay connection.landing?

theorem moves_proceed (connection : Connection) (now : Moment) (stopped : Bool) :
    Moves stopped connection.landing? (operations (connection.proceed now stopped).2)
      (connection.proceed now stopped).1.landing? :=
  (connection.proceeds now stopped).moves

theorem moves_receive (connection : Connection) (now : Moment) (stopped : Bool) (input : Input) :
    Moves stopped connection.landing? (operations (connection.receive now input).2)
      (connection.receive now input).1.landing? :=
  (connection.receives now input).moves

theorem proceed_of_isEnded (h : connection.isEnded = true) (now : Moment) (stopped : Bool) :
    connection.proceed now stopped = (connection, []) := by
  rw [isEnded] at h
  split at h
  · rename_i state hStage
    rw [proceed, hStage]
  · cases h

theorem receive_of_isEnded (h : connection.isEnded = true) (now : Moment) (input : Input) :
    connection.receive now input = (connection, []) := by
  rw [isEnded] at h
  split at h
  · rename_i state hStage
    rw [receive, hStage]
  · cases h

end Connection

/-! ## Clients -/

namespace Client

variable {client : Client}

/-- The link that a client has registered. -/
def landing? (client : Client) : Option Landing :=
  match client.stage with
  | .connected connection => connection.landing?
  | _ => none

/-- What a client does to the nodes while it has no link there, and what it tells about itself when
it ends: it does nothing, and it is closing. -/
structure Departs (step : Client × List Effect) : Prop where
  landing : step.1.landing? = none
  performs : operations step.2 = []
  closing : step.1.stage = .ended → (published step.2).getLast? = some .closing

theorem Departs.moves {step : Client × List Effect} (h : Departs step) (stopped : Bool) :
    Moves stopped none (operations step.2) step.1.landing? := by
  rw [h.landing, h.performs]
  exact .stay none

theorem departs_finish (client : Client) : Departs client.finish :=
  ⟨rfl, rfl, fun _ => rfl⟩

theorem departs_pause (client : Client) (now : Moment) (stopped : Bool) :
    Departs (client.pause now stopped) := by
  cases stopped with
  | true => exact departs_finish client
  | false => exact ⟨rfl, rfl, nofun⟩

theorem departs_greet (client : Client) (now : Moment) : Departs (client.greet now) := by
  rw [greet]
  split
  · exact ⟨rfl, rfl, nofun⟩
  · exact ⟨rfl, rfl, nofun⟩

theorem departs_readHeader (client : Client) (buffer : Bytes) (deadline now : Moment)
    (fresh : LinkId) : Departs (client.readHeader buffer deadline now fresh) := by
  rw [readHeader]
  split
  · exact ⟨rfl, rfl, nofun⟩
  · exact ⟨rfl, rfl, nofun⟩
  · exact ⟨rfl, rfl, nofun⟩

theorem stage_of_start {node : NodeId} {name : String} {hint : Option String} {config : Config}
    (h : start node name hint config = .ok client) : client.stage = .resting := by
  rw [start] at h
  split at h
  · cases h
  · split at h
    · cases h
      rfl
    · cases h

theorem isEnded_iff : client.isEnded = true ↔ client.stage = .ended := by
  simp [isEnded]

theorem landing?_of_isEnded (h : client.isEnded = true) : client.landing? = none := by
  rw [landing?, isEnded_iff.1 h]

theorem proceed_of_isEnded (h : client.isEnded = true) (now : Moment) (stopped : Bool) :
    client.proceed now stopped = (client, []) := by
  rw [proceed, isEnded_iff.1 h]

theorem receive_of_isEnded (h : client.isEnded = true) (now : Moment) (fresh : LinkId)
    (input : Input) : client.receive now fresh input = (client, []) := by
  rw [receive, isEnded_iff.1 h]

theorem landing?_eq (client : Client) :
    client.landing? = client.connection?.bind Connection.landing? := by
  rw [landing?, connection?]
  cases client.stage <;> rfl

theorem landing?_of_connection? {connection : Connection}
    (h : client.connection? = some connection) : client.landing? = connection.landing? := by
  rw [landing?_eq, h, Option.bind_some]

theorem landing?_of_connection?_none (h : client.connection? = none) : client.landing? = none := by
  rw [landing?_eq, h, Option.bind_none]

theorem departs_nothing (h : client.isEnded = false) (hNone : client.connection? = none) :
    Departs (client, []) := by
  refine ⟨landing?_of_connection?_none hNone, rfl, fun hEnded => ?_⟩
  rw [isEnded_iff.2 hEnded] at h
  cases h

/-- By itself, a client does what its connection does, or is between two connections. -/
theorem proceed_cases (h : client.isEnded = false) (now : Moment) (stopped : Bool) :
    (∃ connection : Connection, client.landing? = connection.landing? ∧
        client.proceed now stopped = client.within (connection.proceed now stopped)) ∨
      client.landing? = none ∧ Departs (client.proceed now stopped) := by
  have hProceeds := client.proceeds now stopped
  generalize client.proceed now stopped = step at hProceeds ⊢
  cases hProceeds with
  | finish hStage => exact .inr ⟨by rw [landing?, hStage], departs_finish client⟩
  | connect hStage => exact .inr ⟨by rw [landing?, hStage], rfl, rfl, nofun⟩
  | leave _ hConnection hEnded =>
    refine .inr ⟨?_, departs_pause client now stopped⟩
    rw [landing?_of_connection? hConnection, Connection.landing?_of_isEnded hEnded]
  | pause _ hStage => exact .inr ⟨by rw [landing?, hStage], departs_pause client now stopped⟩
  | @within _ connection hConnection =>
    exact .inl ⟨connection, landing?_of_connection? hConnection, rfl⟩
  | nothing _ _ hNone =>
    exact .inr ⟨landing?_of_connection?_none hNone, departs_nothing h hNone⟩

theorem receive_cases (h : client.isEnded = false) (now : Moment) (fresh : LinkId)
    (input : Input) :
    (∃ connection : Connection, client.landing? = connection.landing? ∧
        client.receive now fresh input = client.within (connection.receive now input)) ∨
      client.landing? = none ∧ Departs (client.receive now fresh input) := by
  have hReceives := client.receives now fresh input
  generalize client.receive now fresh input = step at hReceives ⊢
  cases hReceives with
  | finish _ hNone => exact .inr ⟨landing?_of_connection?_none hNone, departs_finish client⟩
  | hangUp hStage => exact .inr ⟨by rw [landing?, hStage], rfl, rfl, fun _ => rfl⟩
  | greet hStage => exact .inr ⟨by rw [landing?, hStage], departs_greet client now⟩
  | giveUp _ _ hStage | decline _ _ hStage | rest hStage =>
    exact .inr ⟨by rw [landing?, hStage], rfl, rfl, nofun⟩
  | readHeader bytes hStage =>
    exact .inr ⟨by rw [landing?, hStage], departs_readHeader client _ _ now fresh⟩
  | @within _ connection hConnection =>
    exact .inl ⟨connection, landing?_of_connection? hConnection, rfl⟩
  | nothing _ hNone =>
    exact .inr ⟨landing?_of_connection?_none hNone, departs_nothing h hNone⟩

theorem moves_proceed (client : Client) (now : Moment) (stopped : Bool) :
    Moves stopped client.landing? (operations (client.proceed now stopped).2)
      (client.proceed now stopped).1.landing? := by
  cases hEnded : client.isEnded with
  | true =>
    rw [proceed_of_isEnded hEnded]
    exact .stay client.landing?
  | false =>
    rcases proceed_cases hEnded now stopped with ⟨connection, hLanding, hStep⟩ | ⟨hLanding, h⟩
    · rw [hLanding, hStep]
      exact connection.moves_proceed now stopped
    · rw [hLanding]
      exact h.moves stopped

theorem moves_receive (client : Client) (now : Moment) (stopped : Bool) (fresh : LinkId)
    (input : Input) :
    Moves stopped client.landing? (operations (client.receive now fresh input).2)
      (client.receive now fresh input).1.landing? := by
  cases hEnded : client.isEnded with
  | true =>
    rw [receive_of_isEnded hEnded]
    exact .stay client.landing?
  | false =>
    rcases receive_cases hEnded now fresh input with
      ⟨connection, hLanding, hStep⟩ | ⟨hLanding, h⟩
    · rw [hLanding, hStep]
      exact connection.moves_receive now stopped input
    · rw [hLanding]
      exact h.moves stopped

end Client

/-! ## Accepted connections -/

namespace Accepted

variable {accepted : Accepted}

/-- The link that an accepted connection has registered. -/
def landing? (accepted : Accepted) : Option Landing :=
  match accepted.stage with
  | .connected connection => connection.landing?
  | _ => none

theorem isEnded_iff : accepted.isEnded = true ↔ accepted.stage = .ended := by
  simp [isEnded]

theorem landing?_of_isEnded (h : accepted.isEnded = true) : accepted.landing? = none := by
  rw [landing?, isEnded_iff.1 h]

theorem proceed_of_isEnded (h : accepted.isEnded = true) (now : Moment) (stopped : Bool) :
    accepted.proceed now stopped = (accepted, []) := by
  rw [proceed, isEnded_iff.1 h]

theorem receive_of_isEnded (h : accepted.isEnded = true) (now : Moment) (fresh : LinkId)
    (input : Input) : accepted.receive now fresh input = (accepted, []) := by
  rw [receive, isEnded_iff.1 h]

theorem landing?_eq (accepted : Accepted) :
    accepted.landing? = accepted.connection?.bind Connection.landing? := by
  rw [landing?, connection?]
  cases accepted.stage <;> rfl

theorem landing?_of_connection? {connection : Connection}
    (h : accepted.connection? = some connection) : accepted.landing? = connection.landing? := by
  rw [landing?_eq, h, Option.bind_some]

theorem operations_hintNotices (hint : Option String) (notice notice' : Notice) :
    operations (.note notice :: (hintNotices hint).map .note ++ [.note notice']) = [] := by
  have hNotes : .note notice :: (hintNotices hint).map .note ++ [.note notice'] =
      (notice :: hintNotices hint ++ [notice']).map Effect.note := by
    simp
  rw [hNotes, operations_notes]

theorem moves_readHeader (accepted : Accepted) (buffer : Bytes) (deadline now : Moment)
    (stopped : Bool) (fresh : LinkId) :
    Moves stopped none (operations (accepted.readHeader buffer deadline now fresh).2)
      (accepted.readHeader buffer deadline now fresh).1.landing? := by
  rw [readHeader]
  split
  · rw [operations_hintNotices]
    exact .stay none
  · exact .stay none
  · exact .stay none

theorem moves_proceed (accepted : Accepted) (now : Moment) (stopped : Bool) :
    Moves stopped accepted.landing? (operations (accepted.proceed now stopped).2)
      (accepted.proceed now stopped).1.landing? := by
  have h := accepted.proceeds now stopped
  generalize accepted.proceed now stopped = step at h ⊢
  cases h with
  | finish notice hStage | greet bytes hStage =>
    rw [landing?, hStage]
    exact .stay none
  | leave hConnection hEnded =>
    rw [landing?_of_connection? hConnection, Connection.landing?_of_isEnded hEnded]
    exact .stay none
  | @within connection hConnection =>
    rw [landing?_of_connection? hConnection]
    exact connection.moves_proceed now stopped
  | nothing => exact .stay accepted.landing?

theorem moves_receive (accepted : Accepted) (now : Moment) (stopped : Bool) (fresh : LinkId)
    (input : Input) :
    Moves stopped accepted.landing? (operations (accepted.receive now fresh input).2)
      (accepted.receive now fresh input).1.landing? := by
  have h := accepted.receives now fresh input
  generalize accepted.receive now fresh input = step at h ⊢
  cases h with
  | finish notice hStage =>
    rw [landing?, hStage]
    exact .stay none
  | readHeader bytes hStage =>
    rw [landing?, hStage]
    exact accepted.moves_readHeader _ _ now stopped fresh
  | @within connection hConnection =>
    rw [landing?_of_connection? hConnection]
    exact connection.moves_receive now stopped input
  | nothing => exact .stay accepted.landing?

end Accepted

end RobotBus.Transport

namespace RobotBus.Simulation.Machine

open Transport

/-! ## Transports of all kinds -/

/-- A transport that was just made. -/
inductive IsNew : Machine → Prop
  | connection (node : NodeId) (name : String) (fresh : LinkId) (config : Config)
    (announces : Bool) (leftover : Bytes) (now : Moment) :
    IsNew (.connection (.start node name fresh config announces leftover now))
  | client {node : NodeId} {name : String} {hint : Option String} {config : Config}
    {client : Client} : Client.start node name hint config = .ok client → IsNew (.client client)
  | accepted (server : Server) : IsNew (.accepted server.accept.2)

/-- The link that a transport has registered. -/
def landing? : Machine → Option Landing
  | connection c => c.landing?
  | client c => c.landing?
  | accepted a => a.landing?

variable {machine : Machine}

/-- A new transport has registered nothing and has not ended. -/
theorem IsNew.landing? (h : machine.IsNew) : machine.landing? = none := by
  cases h with
  | connection => rfl
  | client hStart => rw [Machine.landing?, Client.landing?, Client.stage_of_start hStart]
  | accepted => rfl

theorem IsNew.isEnded (h : machine.IsNew) : machine.isEnded = false := by
  cases h with
  | connection => rfl
  | client hStart =>
    rw [Machine.isEnded, Client.isEnded, Client.stage_of_start hStart]
    rfl
  | accepted => rfl

theorem landing?_of_isEnded (h : machine.isEnded = true) : machine.landing? = none := by
  cases machine with
  | connection c => exact c.landing?_of_isEnded h
  | client c => exact c.landing?_of_isEnded h
  | accepted a => exact a.landing?_of_isEnded h

theorem proceed_of_isEnded (h : machine.isEnded = true) (now : Moment) (stopped : Bool) :
    machine.proceed now stopped = (machine, []) := by
  cases machine with
  | connection c => rw [proceed, c.proceed_of_isEnded h]
  | client c => rw [proceed, c.proceed_of_isEnded h]
  | accepted a => rw [proceed, a.proceed_of_isEnded h]

theorem receive_of_isEnded (h : machine.isEnded = true) (now : Moment) (fresh : LinkId)
    (input : Input) : machine.receive now fresh input = (machine, []) := by
  cases machine with
  | connection c => rw [receive, c.receive_of_isEnded h]
  | client c => rw [receive, c.receive_of_isEnded h]
  | accepted a => rw [receive, a.receive_of_isEnded h]

/-- What a transport does by itself. -/
theorem moves_proceed (machine : Machine) (now : Moment) (stopped : Bool) :
    Moves stopped machine.landing? (operations (machine.proceed now stopped).2)
      (machine.proceed now stopped).1.landing? := by
  cases machine with
  | connection c => exact c.moves_proceed now stopped
  | client c => exact c.moves_proceed now stopped
  | accepted a => exact a.moves_proceed now stopped

/-- What a transport does with an input. -/
theorem moves_receive (machine : Machine) (now : Moment) (stopped : Bool) (fresh : LinkId)
    (input : Input) :
    Moves stopped machine.landing? (operations (machine.receive now fresh input).2)
      (machine.receive now fresh input).1.landing? := by
  cases machine with
  | connection c => exact c.moves_receive now stopped input
  | client c => exact c.moves_receive now stopped fresh input
  | accepted a => exact a.moves_receive now stopped fresh input

end RobotBus.Simulation.Machine
