import RobotBus.Simulation.Act

/-!
# Turns of calls and procedures

A call that gets its turn begins, looks for its reply, or ends because it was aborted. A run of a
procedure begins, or ends when its delay is over.
-/

namespace RobotBus.Simulation

def setCall (number : Nat) (task : CallTask) : Act Unit :=
  modifyLab fun lab => { lab with calls := lab.calls.insert number task }

def setManager (id : ManagerId) (manager : Calls.Manager) : Act Unit :=
  modifyLab fun lab => { lab with managers := lab.managers.insert id manager }

def endCall (number : Nat) (task : CallTask) (outcome : Option Calls.Outcome) : Act Unit := do
  setCall number { task with stage := .ended outcome }
  modifyLab (·.disarm (.call number))

/-- Looks whether a call has come to its end. -/
def pollCall (number : Nat) (task : CallTask) (manager : Calls.Manager) (call : Nat) :
    Act Unit := do
  let (manager, notices, outcome) := manager.poll call (← now)
  setManager task.manager manager
  note notices
  if let some outcome := outcome then
    endCall number task (some outcome)
    modifyLab (·.wakeCalls task.manager)

/-- Registers a call, sends its invocation, and looks after it for the first time. A reply that
comes while the invocation is being sent is found by that look, and wakes nothing. -/
def beginCall (number : Nat) (task : CallTask) (manager : Calls.Manager) (node : NodeId)
    (target : String) (arguments : Bytes) (timeout : Duration) : Act Unit := do
  let some started := manager.begin target arguments timeout (← now) | return
  setManager task.manager started.manager
  note [started.notice]
  perform (.transmit node started.message none)
  setCall number { task with stage := .waiting started.call }
  modifyLab (·.arm (.call number) ((← now) + timeout))
  let manager ← require "manager" ((← lab).managers.get? task.manager)
  pollCall number task manager started.call

def runCall (number : Nat) (task : CallTask) : Act Unit := do
  let some manager := (← lab).managers.get? task.manager | return
  match task.stage, task.aborted with
  | .ended _, _ => return
  | .queued .., true => endCall number task none
  | .waiting call, true =>
    setManager task.manager (manager.finish call)
    endCall number task none
  | .waiting call, false => pollCall number task manager call
  | .queued target arguments timeout, false =>
    match (← lab).homes.get? task.manager with
    | some node =>
      if (← get).nodes.contains node then
        beginCall number task manager node target arguments
          (timeout.getD manager.defaultTimeout)
      else
        endCall number task (some (.error .nodeDropped))
    | none => endCall number task (some (.error .nodeDropped))

def runProcedure (number : Nat) (task : RunTask) : Act Unit := do
  let moment ← now
  if task.stage = .queued then
    note [task.run.opening]
  let deadline := match task.stage with
    | .queued => moment + task.run.pause
    | .sleeping deadline => deadline
  if task.run.procedure.delay.isNone || Timer.isDue deadline moment then
    modifyLab fun lab => { lab.disarm (.run number) with runs := lab.runs.erase number }
    let (notices, reply) := task.run.conclude
    note notices
    if let some reply := reply then
      perform (.transmit task.run.procedure.node reply none)
  else
    modifyLab fun lab =>
      { lab with
        runs := lab.runs.insert number { task with stage := .sleeping deadline } }.arm
          (.run number) deadline

end RobotBus.Simulation
