import RobotBus.Simulation.Turn.Calls
import RobotBus.Simulation.Turn.Transports

/-!
# Schedules

The jobs of a world run one at a time, each until it waits for something. Jobs that are ready run in
the order in which they became so. What only a job has held is removed as soon as the job is over.
Time passes only while nothing is ready, and then up to the next timer.
-/

namespace RobotBus.Simulation

def runJob (job : Job) : Act Unit := do
  let lab ← lab
  match job with
  | .call number => if let some task := lab.calls.get? number then runCall number task
  | .run number => if let some task := lab.runs[number]? then runProcedure number task
  | .agent number => if lab.agents.contains number then runAgent number patience
  | .writer queue => runWriter queue patience
  | .server number => if let some task := lab.servers.get? number then runServer number task

/-- Runs up to `count` of the jobs that are ready. -/
def runReady : Nat → Act Unit
  | 0 => return
  | count + 1 => do
    match (← lab).agenda.next? with
    | none => return
    | some (job, agenda) =>
      modifyLab fun lab => { lab with agenda }
      runJob job
      if job.isHolder then
        modify collect
      runReady count

/-- Runs everything that is ready, until nothing is. -/
def settle : Act Unit := do
  runReady patience
  if !(← lab).agenda.ready.isEmpty then
    throw .endless

/-- Lets time pass, and fires the timers that are due after it. -/
def pass (duration : Duration) : Act Unit := do
  modify fun world => { world with now := world.now + duration }
  let moment ← now
  modifyLab fun lab => { lab with agenda := lab.agenda.fire moment }

/-- Lets time pass up to a tick. -/
def passTo (tick : Nat) : Act Unit := do
  pass ((tick - Timer.tick (← now)) * Timer.resolution)

/-- How many jobs run until a step that waits to be woken looks again. -/
def batchSize : Nat := 61

/-- Runs what is ready and lets time pass until something holds, or until a deadline. Looks again
after every `batch` jobs. -/
def awaitFor (batch : Nat) (deadline : Option Moment) (holds : World → Bool) : Nat → Act Bool
  | 0 => throw .endless
  | fuel + 1 => do
    runReady batch
    if holds (← get) then
      return true
    let agenda := (← lab).agenda
    if !agenda.ready.isEmpty then
      return ← awaitFor batch deadline holds fuel
    match agenda.nextTick?, deadline.map Timer.firingTick with
    | none, none => throw .endless
    | some tick, none =>
      passTo tick
      awaitFor batch deadline holds fuel
    | none, some last =>
      passTo last
      return false
    | some tick, some last =>
      if last ≤ tick then
        passTo last
        return false
      else
        passTo tick
        awaitFor batch deadline holds fuel

def setCredit (credit : Nat) : Act Unit :=
  modifyLab fun lab => { lab with credit }

/-- Waits until something holds. What holds already lets nothing else run. -/
def awaitUntil (batch : Nat) (deadline : Option Moment) (holds : World → Bool) : Act Bool := do
  if holds (← get) then
    return true
  setCredit fullCredit
  awaitFor batch deadline holds patience

/-- Waits for what a job tells, and spends credit on being told. Without credit a batch of jobs runs
first, also if nothing has to be waited for. -/
def awaitTold (deadline : Option Moment) (holds : World → Bool) : Act Bool := do
  if holds (← get) && (← lab).credit = 0 then
    setCredit fullCredit
    runReady batchSize
  let told ← awaitUntil batchSize deadline holds
  setCredit ((← lab).credit - 1)
  return told

end RobotBus.Simulation
