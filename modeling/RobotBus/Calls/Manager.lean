import RobotBus.Calls.Invocation
import RobotBus.Error
import RobotBus.Message
import RobotBus.Notice
import RobotBus.Path
import RobotBus.Timer

/-!
# Call managers

A manager invokes procedures for the code of its node. It registers a call, sends the invocation
with a source that leads back to its endpoint, and waits until the reply has come or the time is
over. Each call has a channel of its own to receive the reply through. When a call ends, however it
ends, what is registered under its number is removed.
-/

namespace RobotBus.Calls

/-- The channel of a call: nothing has come yet, the result of the procedure has come, or nothing
can come any more. -/
inductive Channel
  | waiting
  | answered (result : Bytes)
  | closed
deriving DecidableEq, Repr

structure Call where
  id : InvocationId
  target : String
  timeout : Duration
  deadline : Moment
  channel : Channel := .waiting
deriving DecidableEq, Repr

structure Manager where
  endpoint : String
  defaultTimeout : Duration := Duration.seconds 5
  pending : Pending := {}
  calls : Bindings Nat Call := .empty
  started : Nat := 0

/-- What came of a call. -/
abbrev Outcome := Except BusError Bytes

namespace Manager

/-- The link name under which a node registers its own manager. -/
def defaultEndpoint : String := "rpc-endpoint"

/-- A call that has been registered, and the message that invokes its procedure. -/
structure Started where
  manager : Manager
  call : Nat
  notice : Notice
  message : Message

def sourceOf (manager : Manager) (id : InvocationId) : String :=
  Path.through manager.endpoint (some id.toPath)

/-- Registers a call. There is none if all numbers are taken. -/
def begin (manager : Manager) (target : String) (arguments : Bytes) (timeout : Duration)
    (now : Moment) : Option Started :=
  let call := manager.started
  (manager.pending.register ⟨call, target, now⟩).map fun (id, pending) =>
    let source := manager.sourceOf id
    { manager := { manager with
        pending
        calls := manager.calls.insert call { id, target, timeout, deadline := now + timeout }
        started := call + 1 }
      call
      notice := .invoking target source
      message := ⟨some target, some source, Payload.invocation arguments⟩ }

/-- Ends a call. If another call is registered under its number by now, that call can not get its
reply any more. -/
def finish (manager : Manager) (call : Nat) : Manager :=
  match manager.calls.get? call with
  | none => manager
  | some ended =>
    let calls := manager.calls.erase call
    { manager with
      pending := manager.pending.remove ended.id
      calls := match manager.pending.get? ended.id with
        | none => calls
        | some invocation => calls.modify invocation.call fun other =>
          if other.channel = .waiting then { other with channel := .closed } else other }

/-- Looks after a call: at the reply first, and at the time after that. -/
def poll (manager : Manager) (call : Nat) (now : Moment) :
    Manager × List Notice × Option Outcome :=
  match manager.calls.get? call with
  | none => (manager, [], none)
  | some found =>
    match found.channel with
    | .answered result => (manager.finish call, [], some (.ok result))
    | .closed => (manager.finish call, [], some (.error .nodeDropped))
    | .waiting =>
      if Timer.isDue found.deadline now then
        (manager.finish call, [.invocationTimedOut found.id found.target],
          some (.error (.timeout found.target found.timeout)))
      else
        (manager, [], none)

/-- Hands a result to a call, if it still waits. -/
def answer (manager : Manager) (id : InvocationId) (call : Nat) (result : Bytes) :
    Manager × List Notice :=
  match manager.calls.get? call with
  | some found =>
    if found.channel = .waiting then
      ({ manager with
            calls := manager.calls.insert call { found with channel := .answered result } },
        [])
    else
      (manager, [.replyAbandoned id])
  | none => (manager, [.replyAbandoned id])

/-- A message with the number of an invocation. A reply takes the invocation off the pending ones,
so that it is the only one. -/
def receiveFor (manager : Manager) (id : InvocationId) (source : Option String) (payload : Bytes)
    (now : Moment) : Manager × List Notice :=
  match Payload.tag? payload with
  | some .invokeReply =>
    match manager.pending.get? id with
    | none => (manager, [.replyUnknown id source])
    | some invocation =>
      let notice := Notice.replyArrived id invocation.target (now - invocation.issuedAt)
      let taken := { manager with pending := manager.pending.remove id }
      let (manager, notices) := taken.answer id invocation.call (payload.drop 1)
      (manager, notice :: notices)
  | some .negativeAck =>
    match manager.pending.get? id with
    | none => (manager, [])
    | some invocation => (manager, [.invocationUndeliverable id invocation.target source])
  | _ => (manager, [.unexpectedForInvocation id source payload])

/-- A message that reached the endpoint. -/
def receive (manager : Manager) (message : Message) (now : Moment) : Manager × List Notice :=
  match message.target with
  | none => (manager, [.messageToEndpoint message.source])
  | some target =>
    if target = Path.everyone then
      (manager, [])
    else
      match InvocationId.ofPath? target with
      | none => (manager, [.malformedInvocationId target])
      | some id => manager.receiveFor id message.source message.payload now

/-- The number of invocations whose reply has not come. -/
def pendingCount (manager : Manager) : Nat :=
  manager.pending.size

end Manager

end RobotBus.Calls
