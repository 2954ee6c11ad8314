import RobotBus.Proofs.Transport.Moves

/-!
# Where connections come from

A transport has at most one connection at a time. The connection that it has after a step is the one
that it had before, one step further, or a new one for which a header has come
(`Machine.connection?_of_proceed`, `Machine.connection?_of_receive`). A connection keeps its landing
for as long as it exists, so a link that is registered is one that was going to be, and a link that
is going to be registered is a fresh one in the beginning: `Machine.arriving?` is told from
`Machine.landing?` by the stage, and goes over into it once.
-/

namespace RobotBus.Transport

theorem Ends.link_ofFresh (fresh : LinkId) (traced : Bool) :
    fresh ≤ (Ends.ofFresh fresh traced).link ∧ (Ends.ofFresh fresh traced).link < fresh + 2 := by
  cases traced with
  | true => exact ⟨Nat.le_succ fresh, Nat.lt_succ_self (fresh + 1)⟩
  | false => exact ⟨Nat.le_refl fresh, Nat.lt_add_of_pos_right (by decide)⟩

/-! ## Connections -/

namespace Connection

variable {connection : Connection} {landing : Landing}

/-- The link that a connection is going to register. -/
def arriving? (connection : Connection) : Option Landing :=
  match connection.stage with
  | .opening => some connection.landing
  | _ => none

theorem arriving?_start (node : NodeId) (name : String) (fresh : LinkId) (config : Config)
    (announces : Bool) (leftover : Bytes) (now : Moment) :
    (start node name fresh config announces leftover now).arriving? =
      some ⟨node, name, (Ends.ofFresh fresh config.traceFrames).link⟩ := rfl

theorem eq_landing_of_landing? (h : connection.landing? = some landing) :
    landing = connection.landing := by
  rw [landing?] at h
  split at h
  · exact (Option.some.inj h).symm
  · exact (Option.some.inj h).symm
  · exact (Option.some.inj h).symm
  · cases h
  · cases h

/-- A link is not registered and going to be at the same time. -/
theorem landing?_of_arriving? (h : connection.arriving? = some landing) :
    connection.landing? = none := by
  rw [arriving?] at h
  split at h
  · rename_i hStage
    rw [landing?, hStage]
  · cases h

theorem landing_read (connection : Connection) (now : Moment) :
    (connection.read now).1.landing = connection.landing := by
  rw [read]
  split <;> rfl

theorem landing_register (connection : Connection) :
    connection.register.1.landing = connection.landing := by
  rw [register]
  split <;> rfl

theorem landing_proceed (connection : Connection) (now : Moment) (stopped : Bool) :
    (connection.proceed now stopped).1.landing = connection.landing := by
  have h := connection.proceeds now stopped
  generalize connection.proceed now stopped = step at h ⊢
  cases h with
  | register => exact connection.landing_register
  | read => exact connection.landing_read now
  | giveUp | finish | goOn | nothing => rfl

theorem landing_receive (connection : Connection) (now : Moment) (input : Input) :
    (connection.receive now input).1.landing = connection.landing := by
  have h := connection.receives now input
  generalize connection.receive now input = step at h ⊢
  cases h with
  | finish | resume | nothing => rfl

theorem arriving?_read (connection : Connection) (now : Moment) :
    (connection.read now).1.arriving? = none := by
  rw [read]
  split <;> rfl

theorem arriving?_register (connection : Connection) :
    connection.register.1.arriving? = none := by
  rw [register]
  split <;> rfl

theorem arriving?_of_not_running (h : connection.isRunning = false) :
    connection.arriving? = none := by
  rw [isRunning] at h
  rw [arriving?]
  split
  · rename_i hStage
    rw [hStage] at h
    cases h
  · rfl

/-- After its first step a connection is not going to register any more. -/
theorem arriving?_proceed (connection : Connection) (now : Moment) (stopped : Bool) :
    (connection.proceed now stopped).1.arriving? = none := by
  have h := connection.proceeds now stopped
  generalize connection.proceed now stopped = step at h ⊢
  cases h with
  | register => exact connection.arriving?_register
  | read => exact connection.arriving?_read now
  | giveUp | finish | goOn => rfl
  | nothing _ hWaiting => exact arriving?_of_not_running hWaiting

theorem arriving?_receive (connection : Connection) (now : Moment) (input : Input) :
    (connection.receive now input).1.arriving? = connection.arriving? := by
  have h := connection.receives now input
  generalize connection.receive now input = step at h ⊢
  cases h with
  | finish _ hStage | resume _ _ hStage =>
    rw [show connection.arriving? = none by rw [arriving?, hStage]]
    rfl
  | nothing => rfl

/-- A connection that has not ended has registered its link or is going to. -/
theorem landing?_or_arriving? (h : connection.isEnded = false) :
    connection.landing? = some connection.landing ∨
      connection.arriving? = some connection.landing := by
  rw [isEnded] at h
  cases hStage : connection.stage with
  | opening =>
    right
    rw [arriving?, hStage]
  | reading | dispatched frame since | waiting pollEnd =>
    left
    rw [landing?, hStage]
  | ended state =>
    rw [hStage] at h
    cases h

theorem landing?_of_proceed {now : Moment} {stopped : Bool}
    (h : (connection.proceed now stopped).1.landing? = some landing) :
    connection.landing? = some landing ∨ connection.arriving? = some landing := by
  have hSame := eq_landing_of_landing? h
  rw [landing_proceed] at hSame
  cases hEnded : connection.isEnded with
  | true =>
    rw [proceed_of_isEnded hEnded] at h
    exact .inl h
  | false =>
    rw [hSame]
    exact landing?_or_arriving? hEnded

theorem landing?_of_receive {now : Moment} {input : Input}
    (h : (connection.receive now input).1.landing? = some landing) :
    connection.landing? = some landing := by
  have hSame := eq_landing_of_landing? h
  rw [landing_receive] at hSame
  cases hEnded : connection.isEnded with
  | true =>
    rw [receive_of_isEnded hEnded] at h
    exact h
  | false =>
    rcases landing?_or_arriving? hEnded with hLanding | hArriving
    · rw [hLanding, hSame]
    · have hNone := landing?_of_arriving? ((arriving?_receive connection now input).trans hArriving)
      rw [hNone] at h
      cases h

end Connection

/-! ## Clients -/

namespace Client

variable {client : Client} {connection : Connection}

/-- A client that is closing, pausing, connecting or shaking hands has no connection. -/
theorem connection?_pause (client : Client) (now : Moment) (stopped : Bool) :
    (client.pause now stopped).1.connection? = none := by
  cases stopped <;> rfl

theorem connection?_greet (client : Client) (now : Moment) :
    (client.greet now).1.connection? = none := by
  rw [greet]
  split
  · rfl
  · rfl

/-- A connection is begun when a header has come. -/
theorem connection?_readHeader {buffer : Bytes} {deadline now : Moment} {fresh : LinkId}
    (h : (client.readHeader buffer deadline now fresh).1.connection? = some connection) :
    ∃ header rest, Wire.Header.decoder.decode buffer = .item header rest ∧
      connection = .start client.node client.name fresh client.config true rest now := by
  rw [readHeader] at h
  split at h
  · rename_i header rest hItem
    exact ⟨header, rest, hItem, (Option.some.inj h).symm⟩
  · cases h
  · cases h

theorem connection?_of_proceed {now : Moment} {stopped : Bool}
    (h : (client.proceed now stopped).1.connection? = some connection) :
    ∃ before, client.connection? = some before ∧ connection = (before.proceed now stopped).1 := by
  have hProceeds := client.proceeds now stopped
  generalize client.proceed now stopped = step at hProceeds h
  cases hProceeds with
  | finish | connect => cases h
  | leave | pause =>
    rw [connection?_pause] at h
    cases h
  | @within _ before hBefore => exact ⟨before, hBefore, (Option.some.inj h).symm⟩
  | nothing _ _ hNone =>
    rw [hNone] at h
    cases h

/-- The connection that a client has after an input. -/
theorem connection?_of_receive {now : Moment} {fresh : LinkId} {input : Input}
    (h : (client.receive now fresh input).1.connection? = some connection) :
    (∃ before, client.connection? = some before ∧ connection = (before.receive now input).1) ∨
      client.connection? = none ∧ ∃ rest,
        connection = .start client.node client.name fresh client.config true rest now := by
  have hReceives := client.receives now fresh input
  generalize client.receive now fresh input = step at hReceives h
  cases hReceives with
  | finish | hangUp | giveUp | decline | rest => cases h
  | greet =>
    rw [connection?_greet] at h
    cases h
  | readHeader bytes hStage =>
    obtain ⟨_, rest, _, hStart⟩ := connection?_readHeader h
    exact .inr ⟨by rw [connection?, hStage], rest, hStart⟩
  | @within _ before hBefore => exact .inl ⟨before, hBefore, (Option.some.inj h).symm⟩
  | nothing _ hNone =>
    rw [hNone] at h
    cases h

/-! ### What a client keeps -/

theorem pause_eq (client : Client) (now : Moment) (stopped : Bool) :
    ∃ stage, (client.pause now stopped).1 = { client with stage } := by
  cases stopped <;> exact ⟨_, rfl⟩

theorem greet_eq (client : Client) (now : Moment) :
    ∃ stage, (client.greet now).1 = { client with stage } := by
  rw [greet]
  split
  · exact ⟨_, rfl⟩
  · exact ⟨_, rfl⟩

theorem readHeader_eq (client : Client) (buffer : Bytes) (deadline now : Moment)
    (fresh : LinkId) :
    ∃ stage, (client.readHeader buffer deadline now fresh).1 = { client with stage } := by
  rw [readHeader]
  split
  · exact ⟨_, rfl⟩
  · exact ⟨_, rfl⟩
  · exact ⟨_, rfl⟩

/-- A step of a client changes nothing but the stage. -/
theorem proceed_eq (client : Client) (now : Moment) (stopped : Bool) :
    ∃ stage, (client.proceed now stopped).1 = { client with stage } := by
  have h := client.proceeds now stopped
  generalize client.proceed now stopped = step at h ⊢
  cases h with
  | leave | pause => exact pause_eq client now stopped
  | finish | connect | within | nothing => exact ⟨_, rfl⟩

theorem receive_eq (client : Client) (now : Moment) (fresh : LinkId) (input : Input) :
    ∃ stage, (client.receive now fresh input).1 = { client with stage } := by
  have h := client.receives now fresh input
  generalize client.receive now fresh input = step at h ⊢
  cases h with
  | greet => exact client.greet_eq now
  | readHeader => exact client.readHeader_eq _ _ now fresh
  | finish | hangUp | giveUp | decline | rest | within | nothing => exact ⟨_, rfl⟩

end Client

/-! ## Accepted connections -/

namespace Accepted

variable {accepted : Accepted} {connection : Connection}

theorem connection?_of_proceed {now : Moment} {stopped : Bool}
    (h : (accepted.proceed now stopped).1.connection? = some connection) :
    ∃ before, accepted.connection? = some before ∧ connection = (before.proceed now stopped).1 := by
  have hProceeds := accepted.proceeds now stopped
  generalize accepted.proceed now stopped = step at hProceeds h
  cases hProceeds with
  | finish | greet | leave => cases h
  | @within before hBefore => exact ⟨before, hBefore, (Option.some.inj h).symm⟩
  | nothing hNone =>
    rw [hNone] at h
    cases h

/-- A connection is begun when a header has come. It is named by the hint of the client. -/
theorem connection?_readHeader {buffer : Bytes} {deadline now : Moment} {fresh : LinkId}
    (h : (accepted.readHeader buffer deadline now fresh).1.connection? = some connection) :
    ∃ hint rest, connection =
      .start accepted.node (accepted.nameFor hint) fresh accepted.config false rest now := by
  rw [readHeader] at h
  split at h
  · rename_i header rest _
    exact ⟨header.hint, rest, (Option.some.inj h).symm⟩
  · cases h
  · cases h

/-- The connection that there is after an input. -/
theorem connection?_of_receive {now : Moment} {fresh : LinkId} {input : Input}
    (h : (accepted.receive now fresh input).1.connection? = some connection) :
    (∃ before, accepted.connection? = some before ∧ connection = (before.receive now input).1) ∨
      accepted.connection? = none ∧ ∃ hint rest, connection =
        .start accepted.node (accepted.nameFor hint) fresh accepted.config false rest now := by
  have hReceives := accepted.receives now fresh input
  generalize accepted.receive now fresh input = step at hReceives h
  cases hReceives with
  | finish => cases h
  | readHeader bytes hStage => exact .inr ⟨by rw [connection?, hStage], connection?_readHeader h⟩
  | @within before hBefore => exact .inl ⟨before, hBefore, (Option.some.inj h).symm⟩
  | nothing hNone =>
    rw [hNone] at h
    cases h

/-- A step of an accepted connection changes nothing but the stage. -/
theorem proceed_eq (accepted : Accepted) (now : Moment) (stopped : Bool) :
    ∃ stage, (accepted.proceed now stopped).1 = { accepted with stage } := by
  have h := accepted.proceeds now stopped
  generalize accepted.proceed now stopped = step at h ⊢
  cases h with
  | finish | greet | leave | within | nothing => exact ⟨_, rfl⟩

theorem receive_eq (accepted : Accepted) (now : Moment) (fresh : LinkId) (input : Input) :
    ∃ stage, (accepted.receive now fresh input).1 = { accepted with stage } := by
  have h := accepted.receives now fresh input
  generalize accepted.receive now fresh input = step at h ⊢
  cases h with
  | finish | within | nothing => exact ⟨_, rfl⟩
  | readHeader =>
    simp only [readHeader]
    split <;> exact ⟨_, rfl⟩

end Accepted

end RobotBus.Transport

namespace RobotBus.Simulation.Machine

open Transport

/-! ## Transports of all kinds -/

/-- The connection of a transport, if it has one. -/
def connection? : Machine → Option Connection
  | connection c => some c
  | client c => c.connection?
  | accepted a => a.connection?

variable {machine : Machine} {connection : Connection} {landing : Landing}

/-- The link that a transport is going to register. -/
def arriving? (machine : Machine) : Option Landing :=
  machine.connection?.bind Connection.arriving?

theorem landing?_eq (machine : Machine) :
    machine.landing? = machine.connection?.bind Connection.landing? := by
  cases machine with
  | connection c => rfl
  | client c => exact c.landing?_eq
  | accepted a => exact a.landing?_eq

/-- By itself, a transport begins no connection. -/
theorem connection?_of_proceed {now : Moment} {stopped : Bool}
    (h : (machine.proceed now stopped).1.connection? = some connection) :
    ∃ before, machine.connection? = some before ∧
      connection = (before.proceed now stopped).1 := by
  cases machine with
  | connection c => exact ⟨c, rfl, (Option.some.inj h).symm⟩
  | client c => exact c.connection?_of_proceed h
  | accepted a => exact a.connection?_of_proceed h

/-- The connection that a transport has after an input is the one from before, or a new one. -/
theorem connection?_of_receive {now : Moment} {fresh : LinkId} {input : Input}
    (h : (machine.receive now fresh input).1.connection? = some connection) :
    (∃ before, machine.connection? = some before ∧ connection = (before.receive now input).1) ∨
      machine.connection? = none ∧ ∃ name config announces leftover,
        connection = .start machine.node name fresh config announces leftover now := by
  cases machine with
  | connection c => exact .inl ⟨c, rfl, (Option.some.inj h).symm⟩
  | client c =>
    rcases c.connection?_of_receive h with hBefore | ⟨hNone, rest, hStart⟩
    · exact .inl hBefore
    · exact .inr ⟨hNone, _, _, _, _, hStart⟩
  | accepted a =>
    rcases a.connection?_of_receive h with hBefore | ⟨hNone, hint, rest, hStart⟩
    · exact .inl hBefore
    · exact .inr ⟨hNone, _, _, _, _, hStart⟩

theorem node_proceed (machine : Machine) (now : Moment) (stopped : Bool) :
    (machine.proceed now stopped).1.node = machine.node := by
  cases machine with
  | connection c => exact congrArg Landing.node (c.landing_proceed now stopped)
  | client c =>
    obtain ⟨stage, hStage⟩ := c.proceed_eq now stopped
    show (c.proceed now stopped).1.node = c.node
    rw [hStage]
  | accepted a =>
    obtain ⟨stage, hStage⟩ := a.proceed_eq now stopped
    show (a.proceed now stopped).1.node = a.node
    rw [hStage]

theorem node_receive (machine : Machine) (now : Moment) (fresh : LinkId)
    (input : Input) : (machine.receive now fresh input).1.node = machine.node := by
  cases machine with
  | connection c => exact congrArg Landing.node (c.landing_receive now input)
  | client c =>
    obtain ⟨stage, hStage⟩ := c.receive_eq now fresh input
    show (c.receive now fresh input).1.node = c.node
    rw [hStage]
  | accepted a =>
    obtain ⟨stage, hStage⟩ := a.receive_eq now fresh input
    show (a.receive now fresh input).1.node = a.node
    rw [hStage]

theorem arriving?_eq_some_iff :
    machine.arriving? = some landing ↔
      ∃ connection, machine.connection? = some connection ∧
        connection.arriving? = some landing := by
  rw [arriving?, Option.bind_eq_some_iff]

theorem landing?_eq_some_iff :
    machine.landing? = some landing ↔
      ∃ connection, machine.connection? = some connection ∧
        connection.landing? = some landing := by
  rw [landing?_eq, Option.bind_eq_some_iff]

theorem landing?_of_arriving? (h : machine.arriving? = some landing) : machine.landing? = none := by
  obtain ⟨connection, hConnection, hArriving⟩ := arriving?_eq_some_iff.1 h
  rw [landing?_eq, hConnection]
  exact Connection.landing?_of_arriving? hArriving

theorem arriving?_proceed (machine : Machine) (now : Moment) (stopped : Bool) :
    (machine.proceed now stopped).1.arriving? = none := by
  rw [Option.eq_none_iff_forall_ne_some]
  intro landing h
  obtain ⟨connection, hConnection, hArriving⟩ := arriving?_eq_some_iff.1 h
  obtain ⟨before, _, rfl⟩ := connection?_of_proceed hConnection
  rw [Connection.arriving?_proceed] at hArriving
  cases hArriving

/-- A link that is going to be registered after an input was so before, or is fresh. -/
theorem arriving?_of_receive {now : Moment} {fresh : LinkId} {input : Input}
    (h : (machine.receive now fresh input).1.arriving? = some landing) :
    machine.arriving? = some landing ∨
      landing.node = machine.node ∧ fresh ≤ landing.link ∧ landing.link < fresh + 2 := by
  obtain ⟨connection, hConnection, hArriving⟩ := arriving?_eq_some_iff.1 h
  rcases connection?_of_receive hConnection with
    ⟨before, hBefore, rfl⟩ | ⟨_, name, config, announces, leftover, rfl⟩
  · rw [Connection.arriving?_receive] at hArriving
    exact .inl (arriving?_eq_some_iff.2 ⟨before, hBefore, hArriving⟩)
  · rw [Connection.arriving?_start] at hArriving
    obtain rfl := Option.some.inj hArriving
    exact .inr ⟨rfl, Ends.link_ofFresh fresh config.traceFrames⟩

/-- A link that is registered after a step was registered before, or was going to be. -/
theorem landing?_of_proceed {now : Moment} {stopped : Bool}
    (h : (machine.proceed now stopped).1.landing? = some landing) :
    machine.landing? = some landing ∨ machine.arriving? = some landing := by
  obtain ⟨connection, hConnection, hLanding⟩ := landing?_eq_some_iff.1 h
  obtain ⟨before, hBefore, rfl⟩ := connection?_of_proceed hConnection
  rcases Connection.landing?_of_proceed hLanding with hOld | hArriving
  · exact .inl (landing?_eq_some_iff.2 ⟨before, hBefore, hOld⟩)
  · exact .inr (arriving?_eq_some_iff.2 ⟨before, hBefore, hArriving⟩)

/-- An input registers nothing. -/
theorem landing?_of_receive {now : Moment} {fresh : LinkId} {input : Input}
    (h : (machine.receive now fresh input).1.landing? = some landing) :
    machine.landing? = some landing := by
  obtain ⟨connection, hConnection, hLanding⟩ := landing?_eq_some_iff.1 h
  rcases connection?_of_receive hConnection with
    ⟨before, hBefore, rfl⟩ | ⟨_, name, config, announces, leftover, rfl⟩
  · exact landing?_eq_some_iff.2 ⟨before, hBefore, Connection.landing?_of_receive hLanding⟩
  · cases hLanding

/-- The node and the name of the connection of a transport. -/
def place? (machine : Machine) : Option (NodeId × String) :=
  machine.connection?.map fun connection => (connection.node, connection.name)

theorem place?_of_landing? (h : machine.landing? = some landing) :
    machine.place? = some (landing.node, landing.name) := by
  obtain ⟨connection, hConnection, hLanding⟩ := landing?_eq_some_iff.1 h
  rw [place?, hConnection, Connection.eq_landing_of_landing? hLanding]
  rfl

theorem place?_of_arriving? (h : machine.arriving? = some landing) :
    machine.place? = some (landing.node, landing.name) := by
  obtain ⟨connection, hConnection, hArriving⟩ := arriving?_eq_some_iff.1 h
  rw [Connection.arriving?] at hArriving
  split at hArriving
  · rw [place?, hConnection, ← Option.some.inj hArriving]
    rfl
  · cases hArriving

end RobotBus.Simulation.Machine
