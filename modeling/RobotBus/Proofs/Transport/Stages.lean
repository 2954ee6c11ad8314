import RobotBus.Transport.Client
import RobotBus.Transport.Server

/-!
# Steps by stage

What connections, clients and accepted connections can do at each of their stages, told once: by
themselves (`Proceeds`) and with an input (`Receives`). What is proved about their steps goes by
cases on these relations. Those for connections and accepted connections do not tell inputs apart;
that of clients does where it matters which one has come.
-/

namespace RobotBus.Transport

/-! ## Connections -/

namespace Connection

/-- What a connection can do by itself. -/
inductive Proceeds (connection : Connection) (now : Moment) :
    Bool → Connection × List Effect → Prop
  | giveUp : connection.stage = .opening → Proceeds connection now true
      (connection.giveUp .closing (.stoppedBeforeRegistration connection.name))
  | register : connection.stage = .opening → Proceeds connection now false connection.register
  | finish : connection.stage = .reading → Proceeds connection now true
      (connection.finish .closing .connectionStopped)
  | read : connection.stage = .reading → Proceeds connection now false (connection.read now)
  | goOn (stopped : Bool) {frame : Wire.Frame} {since : Moment} :
    connection.stage = .dispatched frame since → Proceeds connection now stopped
      ({ connection with stage := .reading }, connection.slowness frame since now)
  | nothing (stopped : Bool) : connection.isRunning = false →
    Proceeds connection now stopped (connection, [])

/-- What a connection can do with an input: it ends, it reads again, or it waits on. -/
inductive Receives (connection : Connection) : Connection × List Effect → Prop
  | finish {pollEnd : Moment} {state : State} (notice : Notice) :
    connection.stage = .waiting pollEnd → state.isTerminal = true →
    Receives connection (connection.finish state notice)
  | resume {pollEnd : Moment} (buffer : Bytes) (notices : List Notice) :
    connection.stage = .waiting pollEnd →
    Receives connection ({ connection with buffer, stage := .reading }, notices.map .note)
  | nothing : Receives connection (connection, [])

theorem proceeds (connection : Connection) (now : Moment) (stopped : Bool) :
    connection.Proceeds now stopped (connection.proceed now stopped) := by
  have hSame : connection.isRunning = false → connection.Proceeds now stopped (connection, []) :=
    .nothing stopped
  rw [proceed]
  cases hStage : connection.stage with
  | opening =>
    cases stopped with
    | true => exact .giveUp hStage
    | false => exact .register hStage
  | reading =>
    cases stopped with
    | true => exact .finish hStage
    | false => exact .read hStage
  | dispatched frame since => exact .goOn stopped hStage
  | waiting pollEnd | ended state => exact hSame (by rw [isRunning, hStage])

theorem receives (connection : Connection) (now : Moment) (input : Input) :
    connection.Receives (connection.receive now input) := by
  rw [receive]
  cases hStage : connection.stage with
  | opening | reading | dispatched frame since | ended state => exact .nothing
  | waiting pollEnd =>
    cases input with
    | connected | refused cause => exact .nothing
    | stop | endOfStream => exact .finish _ hStage rfl
    | received bytes => exact .resume _ [.bytesReceived bytes.length] hStage
    | broken cause regular =>
      cases regular with
      | true => exact .finish _ hStage rfl
      | false => exact .finish _ hStage rfl
    | time =>
      simp only
      split
      · split
        · exact .finish _ hStage rfl
        · exact .resume connection.buffer [] hStage
      · exact .nothing

end Connection

/-! ## Clients -/

namespace Client

/-- The connection of a client, if it has one. -/
def connection? (client : Client) : Option Connection :=
  match client.stage with
  | .connected connection => some connection
  | _ => none

/-- What a client can do by itself. -/
inductive Proceeds (client : Client) (now : Moment) : Bool → Client × List Effect → Prop
  | finish : client.stage = .resting → Proceeds client now true client.finish
  | connect : client.stage = .resting → Proceeds client now false
      ({ client with stage := .connecting (now + client.config.connectTimeout) },
        [.publish .connecting, .connect])
  | leave (stopped : Bool) {connection : Connection} : client.connection? = some connection →
    connection.isEnded = true → Proceeds client now stopped (client.pause now stopped)
  | within (stopped : Bool) {connection : Connection} : client.connection? = some connection →
    connection.isEnded = false →
    Proceeds client now stopped (client.within (connection.proceed now stopped))
  | pause (stopped : Bool) : client.stage = .departing →
    Proceeds client now stopped (client.pause now stopped)
  | nothing (stopped : Bool) : client.isRunning = false → client.connection? = none →
    Proceeds client now stopped (client, [])

/-- What a client can do with an input. -/
inductive Receives (client : Client) (now : Moment) (fresh : LinkId) :
    Input → Client × List Effect → Prop
  | finish : client.isEnded = false → client.connection? = none →
    Receives client now fresh .stop client.finish
  | hangUp {buffer : Bytes} {deadline : Moment} : client.stage = .handshaking buffer deadline →
    Receives client now fresh .stop (client.finish.1, .close :: client.finish.2)
  | greet {deadline : Moment} : client.stage = .connecting deadline →
    Receives client now fresh .connected (client.greet now)
  | giveUp (input : Input) {deadline : Moment} (notice : Notice) :
    client.stage = .connecting deadline →
    Receives client now fresh input (client.depart [.note notice])
  | decline (input : Input) {buffer : Bytes} {deadline : Moment} (notice : Notice) :
    client.stage = .handshaking buffer deadline →
    Receives client now fresh input (client.decline notice)
  | readHeader {buffer : Bytes} {deadline : Moment} (bytes : Bytes) :
    client.stage = .handshaking buffer deadline →
    Receives client now fresh (.received bytes)
      (client.readHeader (buffer ++ bytes) deadline now fresh)
  | rest {deadline : Moment} : client.stage = .pausing deadline →
    Receives client now fresh .time ({ client with stage := .resting }, [])
  | within (input : Input) {connection : Connection} : client.connection? = some connection →
    Receives client now fresh input (client.within (connection.receive now input))
  | nothing (input : Input) : client.connection? = none →
    Receives client now fresh input (client, [])

theorem proceeds (client : Client) (now : Moment) (stopped : Bool) :
    client.Proceeds now stopped (client.proceed now stopped) := by
  have hSame : client.isRunning = false → client.connection? = none →
      client.Proceeds now stopped (client, []) := .nothing stopped
  rw [proceed]
  cases hStage : client.stage with
  | resting =>
    cases stopped with
    | true => exact .finish hStage
    | false => exact .connect hStage
  | connected connection =>
    have hConnection : client.connection? = some connection := by
      rw [connection?, hStage]
    simp only
    split
    · rename_i hEnded
      exact .leave stopped hConnection hEnded
    · rename_i hRunning
      exact .within stopped hConnection (Bool.eq_false_iff.2 hRunning)
  | departing => exact .pause stopped hStage
  | connecting deadline | handshaking buffer deadline | pausing deadline | ended =>
    exact hSame (by rw [isRunning, hStage]) (by rw [connection?, hStage])

theorem receives (client : Client) (now : Moment) (fresh : LinkId) (input : Input) :
    client.Receives now fresh input (client.receive now fresh input) := by
  have hSame : client.connection? = none → client.Receives now fresh input (client, []) :=
    .nothing input
  rw [receive]
  cases hStage : client.stage with
  | connected connection => exact .within input (by rw [connection?, hStage])
  | departing | ended => exact hSame (by rw [connection?, hStage])
  | resting =>
    have hNone : client.connection? = none := by
      rw [connection?, hStage]
    simp only
    split
    · rename_i hStop
      rw [hStop]
      exact .finish (by rw [isEnded, hStage]; rfl) hNone
    · exact hSame hNone
  | connecting deadline =>
    have hNone : client.connection? = none := by
      rw [connection?, hStage]
    cases input with
    | stop => exact .finish (by rw [isEnded, hStage]; rfl) hNone
    | connected => exact .greet hStage
    | refused cause => exact .giveUp _ _ hStage
    | time =>
      simp only
      split
      · exact .giveUp _ _ hStage
      · exact hSame hNone
    | received bytes | endOfStream | broken cause regular => exact hSame hNone
  | handshaking buffer deadline =>
    have hNone : client.connection? = none := by
      rw [connection?, hStage]
    cases input with
    | stop => exact .hangUp hStage
    | received bytes => exact .readHeader bytes hStage
    | endOfStream | broken cause regular => exact .decline _ _ hStage
    | time =>
      simp only
      split
      · exact .decline _ _ hStage
      · exact hSame hNone
    | connected | refused cause => exact hSame hNone
  | pausing deadline =>
    have hNone : client.connection? = none := by
      rw [connection?, hStage]
    cases input with
    | stop => exact .finish (by rw [isEnded, hStage]; rfl) hNone
    | time =>
      simp only
      split
      · exact .rest hStage
      · exact hSame hNone
    | connected | refused cause | received bytes | endOfStream | broken cause regular =>
      exact hSame hNone

end Client

/-! ## Accepted connections -/

namespace Accepted

/-- The connection after the handshake. -/
def connection? (accepted : Accepted) : Option Connection :=
  match accepted.stage with
  | .connected connection => some connection
  | _ => none

/-- An accepted connection with the step of its connection. -/
def within (accepted : Accepted) (step : Connection × List Effect) : Accepted × List Effect :=
  ({ accepted with stage := .connected step.1 }, step.2)

/-- What an accepted connection can do by itself. -/
inductive Proceeds (accepted : Accepted) (now : Moment) (stopped : Bool) :
    Accepted × List Effect → Prop
  | finish (notice : Notice) : accepted.stage = .greeting →
    Proceeds accepted now stopped (accepted.finish notice)
  | greet (bytes : Bytes) : accepted.stage = .greeting → Proceeds accepted now stopped
      ({ accepted with stage := .handshaking [] (now + accepted.config.handshakeTimeout) },
        [.write bytes])
  | leave {connection : Connection} : accepted.connection? = some connection →
    connection.isEnded = true →
    Proceeds accepted now stopped ({ accepted with stage := .ended }, [])
  | within {connection : Connection} : accepted.connection? = some connection →
    connection.isEnded = false →
    Proceeds accepted now stopped (accepted.within (connection.proceed now stopped))
  | nothing : accepted.connection? = none →
    Proceeds accepted now stopped (accepted, [])

/-- What an accepted connection can do with an input. -/
inductive Receives (accepted : Accepted) (now : Moment) (fresh : LinkId) (input : Input) :
    Accepted × List Effect → Prop
  | finish {buffer : Bytes} {deadline : Moment} (notice : Notice) :
    accepted.stage = .handshaking buffer deadline →
    Receives accepted now fresh input (accepted.finish notice)
  | readHeader {buffer : Bytes} {deadline : Moment} (bytes : Bytes) :
    accepted.stage = .handshaking buffer deadline →
    Receives accepted now fresh input (accepted.readHeader (buffer ++ bytes) deadline now fresh)
  | within {connection : Connection} : accepted.connection? = some connection →
    Receives accepted now fresh input (accepted.within (connection.receive now input))
  | nothing : accepted.connection? = none →
    Receives accepted now fresh input (accepted, [])

theorem proceeds (accepted : Accepted) (now : Moment) (stopped : Bool) :
    accepted.Proceeds now stopped (accepted.proceed now stopped) := by
  have hSame : accepted.connection? = none → accepted.Proceeds now stopped (accepted, []) :=
    .nothing
  rw [proceed]
  cases hStage : accepted.stage with
  | greeting =>
    cases stopped with
    | true => exact .finish _ hStage
    | false =>
      simp only [Bool.false_eq_true, if_false]
      split
      · exact .greet _ hStage
      · exact .finish _ hStage
  | connected connection =>
    have hConnection : accepted.connection? = some connection := by
      rw [connection?, hStage]
    simp only
    split
    · rename_i hEnded
      exact .leave hConnection hEnded
    · rename_i hRunning
      exact .within hConnection (Bool.eq_false_iff.2 hRunning)
  | handshaking buffer deadline | ended => exact hSame (by rw [connection?, hStage])

theorem receives (accepted : Accepted) (now : Moment) (fresh : LinkId) (input : Input) :
    accepted.Receives now fresh input (accepted.receive now fresh input) := by
  have hSame : accepted.connection? = none → accepted.Receives now fresh input (accepted, []) :=
    .nothing
  rw [receive]
  cases hStage : accepted.stage with
  | greeting | ended => exact hSame (by rw [connection?, hStage])
  | connected connection => exact .within (by rw [connection?, hStage])
  | handshaking buffer deadline =>
    have hNone : accepted.connection? = none := by
      rw [connection?, hStage]
    cases input with
    | stop | endOfStream | broken cause regular => exact .finish _ hStage
    | connected | refused cause => exact hSame hNone
    | received bytes => exact .readHeader bytes hStage
    | time =>
      simp only
      split
      · exact .finish _ hStage
      · exact hSame hNone

end Accepted

end RobotBus.Transport
