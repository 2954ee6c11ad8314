import Std.Data.TreeMap
import Std.Data.TreeSet
import RobotBus.Fifo
import RobotBus.Simulation.Job

/-!
# Agendas

Which jobs are ready, in the order in which they became so, and which wait for a timer. Timers that
go off at the same tick do so in the order in which they were set. Every operation takes at most
logarithmic time, as one message can make many thousands of jobs.
-/

namespace RobotBus.Simulation

/-- Where a timer stands: its tick, and its number among all timers. -/
abbrev Place := Nat × Nat

def Place.order : Place → Place → Ordering :=
  compareLex (compareOn Prod.fst) (compareOn Prod.snd)

structure Agenda where
  ready : Fifo Job := .empty
  /-- The jobs in `ready`. -/
  members : Std.TreeSet Job := {}
  timers : Std.TreeMap Place Job Place.order := {}
  /-- Where the timer of each job stands. -/
  places : Std.TreeMap Job Place := {}
  started : Nat := 0

namespace Agenda

/-! ## Ready jobs -/

/-- A job that is ready waits behind those that became ready before. -/
def wake (agenda : Agenda) (job : Job) : Agenda :=
  if agenda.members.contains job then agenda
  else { agenda with ready := agenda.ready.push job, members := agenda.members.insert job }

def wakeAll (agenda : Agenda) (jobs : List Job) : Agenda :=
  jobs.foldl wake agenda

/-- The job that became ready first. -/
def next? (agenda : Agenda) : Option (Job × Agenda) :=
  agenda.ready.pop?.map fun (job, ready) =>
    (job, { agenda with ready, members := agenda.members.erase job })

/-! ## Timers -/

def disarm (agenda : Agenda) (job : Job) : Agenda :=
  match agenda.places[job]? with
  | none => agenda
  | some place =>
    { agenda with timers := agenda.timers.erase place, places := agenda.places.erase job }

/-- Sets the timer of a job. It has only one. -/
def arm (agenda : Agenda) (job : Job) (deadline : Moment) : Agenda :=
  let agenda := agenda.disarm job
  let place := (Timer.firingTick deadline, agenda.started)
  { agenda with
    timers := agenda.timers.insert place job
    places := agenda.places.insert job place
    started := agenda.started + 1 }

/-- The tick at which the next timer goes off. -/
def nextTick? (agenda : Agenda) : Option Nat :=
  agenda.timers.minKey?.map Prod.fst

/-- Wakes the jobs of the first `count` timers as far as these are due. -/
def fireFirst (now : Moment) : Nat → Agenda → Agenda
  | 0, agenda => agenda
  | count + 1, agenda =>
    match agenda.timers.minEntry? with
    | none => agenda
    | some (place, job) =>
      if place.1 ≤ Timer.tick now then fireFirst now count ((agenda.disarm job).wake job)
      else agenda

/-- Wakes the jobs whose timers are due, in the order of the timers. -/
def fire (agenda : Agenda) (now : Moment) : Agenda :=
  fireFirst now agenda.timers.size agenda

end Agenda

end RobotBus.Simulation
