import Mathlib.Data.List.Basic
import RobotBus.Keepalive

/-!
# What a monitor knows

A monitor is told of every frame, and time passes in between. It keeps two facts about the past, and
they are all that its answers depend on: whether there was a keepalive (`expecting_run`), and how
long ago the most recent frame was (`isExpired_run`). Since a frame is judged by what was known
before it, one frame at most is taken for the first keepalive (`firsts_run`, `firsts_run_start`).
-/

namespace RobotBus.Keepalive

/-! ## Histories -/

/-- What a monitor goes through. -/
inductive Event
  | frame (keepalive : Bool)
  | pass (span : Duration)
deriving DecidableEq, Repr

namespace Event

def frame? : Event → Option Bool
  | .frame keepalive => some keepalive
  | .pass _ => none

def span : Event → Duration
  | .frame _ => 0
  | .pass span => span

end Event

def frames (events : List Event) : List Bool :=
  events.filterMap Event.frame?

/-- The time that passes in a history. -/
def elapsed : List Event → Duration
  | [] => 0
  | event :: events => event.span + elapsed events

theorem elapsed_append (events events' : List Event) :
    elapsed (events ++ events') = elapsed events + elapsed events' := by
  induction events with
  | nil => exact (Nat.zero_add _).symm
  | cons event events ih =>
    rw [List.cons_append, elapsed, elapsed, ih, Nat.add_assoc]

/-! ## Diaries -/

/-- A monitor in time, with what it said of each frame: whether this was the first keepalive. -/
structure Diary where
  monitor : Monitor
  now : Moment
  firsts : List Bool := []
deriving DecidableEq, Repr

namespace Diary

def start (timeout : Duration) (began : Moment) : Diary where
  monitor := .start timeout began
  now := began

def step (diary : Diary) : Event → Diary
  | .frame keepalive =>
    { diary with
      monitor := diary.monitor.receive keepalive diary.now
      firsts := diary.firsts ++ [diary.monitor.isFirst keepalive] }
  | .pass span => { diary with now := diary.now + span }

def run (diary : Diary) (events : List Event) : Diary :=
  events.foldl step diary

def isExpired (diary : Diary) : Bool :=
  diary.monitor.isExpired diary.now

theorem run_append (diary : Diary) (events events' : List Event) :
    diary.run (events ++ events') = (diary.run events).run events' :=
  List.foldl_append

theorem now_run (diary : Diary) (events : List Event) :
    (diary.run events).now = diary.now + elapsed events := by
  induction events generalizing diary with
  | nil => rfl
  | cons event events ih =>
    refine (ih (diary.step event)).trans ?_
    rw [elapsed, ← Nat.add_assoc]
    cases event with
    | frame keepalive => rfl
    | pass span => rfl

theorem timeout_run (diary : Diary) (events : List Event) :
    (diary.run events).monitor.timeout = diary.monitor.timeout := by
  induction events generalizing diary with
  | nil => rfl
  | cons event events ih =>
    refine (ih (diary.step event)).trans ?_
    cases event with
    | frame keepalive => rfl
    | pass span => rfl

/-- Keepalives are expected from the first one on. -/
theorem expecting_run (diary : Diary) (events : List Event) :
    (diary.run events).monitor.expecting = true ↔
      diary.monitor.expecting = true ∨ .frame true ∈ events := by
  induction events generalizing diary with
  | nil => exact (or_iff_left List.not_mem_nil).symm
  | cons event events ih =>
    refine (ih (diary.step event)).trans ?_
    rw [List.mem_cons, ← or_assoc]
    refine or_congr_left ?_
    cases event with
    | frame keepalive =>
      rw [step, Monitor.receive, Bool.or_eq_true, Event.frame.injEq, @eq_comm _ true]
    | pass span => exact (or_iff_left Event.noConfusion).symm

/-- Time alone leaves a monitor as it is. -/
theorem monitor_run_of_silent (diary : Diary) {events : List Event} (h : frames events = []) :
    (diary.run events).monitor = diary.monitor := by
  induction events generalizing diary with
  | nil => rfl
  | cons event events ih =>
    cases event with
    | frame keepalive => cases h
    | pass span => exact ih (diary.step (.pass span)) h

theorem frames_cons (event : Event) (events : List Event) :
    frames (event :: events) = frames [event] ++ frames events := by
  rw [frames, frames, frames, ← List.filterMap_append]
  rfl

/-- A frame that is not the first keepalive is not reported as such. -/
theorem firsts_step {diary : Diary} {event : Event}
    (h : diary.monitor.expecting = true ∨ event ≠ .frame true) :
    (diary.step event).firsts =
      diary.firsts ++ List.replicate (frames [event]).length false := by
  cases event with
  | pass span => exact (List.append_nil _).symm
  | frame keepalive =>
    have hNot : diary.monitor.isFirst keepalive = false := by
      rcases h with hExpecting | hOrdinary
      · rw [Monitor.isFirst, hExpecting, Bool.not_true, Bool.and_false]
      · have hKind : keepalive = false := Bool.eq_false_iff.2 fun h => hOrdinary (h ▸ rfl)
        rw [Monitor.isFirst, hKind, Bool.false_and]
    rw [step, hNot]
    rfl

/-- After a keepalive, or without one, no frame is the first keepalive. -/
theorem firsts_run {diary : Diary} {events : List Event}
    (h : diary.monitor.expecting = true ∨ .frame true ∉ events) :
    (diary.run events).firsts = diary.firsts ++ List.replicate (frames events).length false := by
  induction events generalizing diary with
  | nil => exact (List.append_nil _).symm
  | cons event events ih =>
    have hStep : (diary.step event).firsts =
        diary.firsts ++ List.replicate (frames [event]).length false := by
      refine firsts_step (h.imp_right fun hNone hSame => ?_)
      exact hNone (List.mem_cons.2 (.inl hSame.symm))
    have hRest : (diary.step event).monitor.expecting = true ∨ .frame true ∉ events :=
      h.imp (fun hExpecting => (expecting_run diary [event]).2 (.inl hExpecting))
        (mt (List.mem_cons_of_mem event))
    refine (ih hRest).trans ?_
    rw [hStep, frames_cons event events, List.length_append, ← List.replicate_append_replicate,
      List.append_assoc]

/-- The verdict after a frame of any kind and the time that has passed since. -/
theorem isExpired_run (diary : Diary) (front : List Event) (keepalive : Bool) {back : List Event}
    (hSilent : frames back = []) :
    (diary.run (front ++ .frame keepalive :: back)).isExpired = true ↔
      (diary.run (front ++ .frame keepalive :: back)).monitor.expecting = true ∧
        diary.monitor.timeout ≤ elapsed back := by
  have hRun : diary.run (front ++ .frame keepalive :: back) =
      ((diary.run front).step (.frame keepalive)).run back :=
    run_append diary front (.frame keepalive :: back)
  have hHeard : (diary.run (front ++ .frame keepalive :: back)).monitor =
      (diary.run front).monitor.receive keepalive (diary.run front).now := by
    rw [hRun, monitor_run_of_silent _ hSilent]
    rfl
  have hNow : (diary.run (front ++ .frame keepalive :: back)).now =
      (diary.run front).now + elapsed back := by
    rw [hRun, now_run]
    rfl
  rw [isExpired, Monitor.isExpired, Bool.and_eq_true, decide_eq_true_eq, timeout_run, hNow, hHeard]
  refine and_congr_right fun _ => ?_
  rw [Monitor.receive, Nat.add_sub_cancel_left]

/-- The most recent frame of a history with a frame. -/
theorem exists_last_frame {events : List Event} (h : frames events ≠ []) :
    ∃ front keepalive back, events = front ++ .frame keepalive :: back ∧ frames back = [] := by
  induction events with
  | nil => exact (h rfl).elim
  | cons event events ih =>
    by_cases hLater : frames events = []
    · cases event with
      | frame keepalive => exact ⟨[], keepalive, events, rfl, hLater⟩
      | pass span => exact (h hLater).elim
    · obtain ⟨front, keepalive, back, rfl, hSilent⟩ := ih hLater
      exact ⟨event :: front, keepalive, back, rfl, hSilent⟩

/-! ## Verdicts -/

section

variable {timeout : Duration} {began : Moment} {events : List Event}

theorem expecting_run_start (timeout : Duration) (began : Moment) (events : List Event) :
    ((start timeout began).run events).monitor.expecting = true ↔ .frame true ∈ events :=
  (expecting_run (start timeout began) events).trans (or_iff_right Bool.false_ne_true)

theorem expecting_run_start_eq_false (h : .frame true ∉ events) :
    ((start timeout began).run events).monitor.expecting = false :=
  Bool.eq_false_iff.2 (mt (expecting_run_start timeout began events).1 h)

theorem firsts_run_start {front : List Event} (hFront : .frame true ∉ front)
    (back : List Event) :
    ((start timeout began).run (front ++ .frame true :: back)).firsts =
      List.replicate (frames front).length false ++
        true :: List.replicate (frames back).length false := by
  let middle := (start timeout began).run front
  have hRun : (start timeout began).run (front ++ .frame true :: back) =
      (middle.step (.frame true)).run back :=
    run_append (start timeout began) front (.frame true :: back)
  have hHeard : (middle.step (.frame true)).monitor.expecting = true :=
    Bool.or_true _
  have hFirst : middle.monitor.isFirst true = true := by
    rw [Monitor.isFirst, expecting_run_start_eq_false hFront]
    rfl
  rw [hRun, firsts_run (.inl hHeard), step, hFirst, firsts_run (.inr hFront), List.append_assoc]
  rfl

theorem isExpired_run_start (front : List Event) (keepalive : Bool) {back : List Event}
    (hSilent : frames back = []) :
    ((start timeout began).run (front ++ .frame keepalive :: back)).isExpired = true ↔
      .frame true ∈ front ++ .frame keepalive :: back ∧ timeout ≤ elapsed back :=
  (isExpired_run (start timeout began) front keepalive hSilent).trans
    (and_congr_left fun _ => expecting_run_start timeout began _)

/-- Whoever sent no keepalive is not given up. -/
theorem isExpired_run_start_eq_false (h : .frame true ∉ events) :
    ((start timeout began).run events).isExpired = false := by
  rw [isExpired, Monitor.isExpired, expecting_run_start_eq_false h, Bool.false_and]

/-- An expired monitor stays expired while nothing comes. -/
theorem isExpired_run_start_append {silence : List Event} (hSilence : frames silence = [])
    (h : ((start timeout began).run events).isExpired = true) :
    ((start timeout began).run (events ++ silence)).isExpired = true := by
  have hKeepalive : .frame true ∈ events := by
    by_contra hNone
    rw [isExpired_run_start_eq_false hNone] at h
    cases h
  have hFrames : frames events ≠ [] :=
    List.ne_nil_of_mem (List.mem_filterMap.2 ⟨_, hKeepalive, rfl⟩)
  obtain ⟨front, keepalive, back, rfl, hBack⟩ := exists_last_frame hFrames
  have hStill : frames (back ++ silence) = [] := by
    rw [frames, List.filterMap_append]
    exact List.append_eq_nil_iff.2 ⟨hBack, hSilence⟩
  have hSpan : timeout ≤ elapsed back := ((isExpired_run_start front keepalive hBack).1 h).2
  rw [List.append_assoc, List.cons_append, isExpired_run_start front keepalive hStill,
    elapsed_append, ← List.cons_append, ← List.append_assoc]
  exact ⟨List.mem_append_left silence hKeepalive, Nat.le_add_right_of_le hSpan⟩

end

/-- **A monitor judges by the history of the frames.** The first keepalive is reported when it
comes, and no other frame ever is. From then on keepalives are expected. The monitor has expired
just if there was a keepalive and the most recent frame, of whichever kind, is at least the timeout
ago. Thus it stays expired as long as nothing comes, and any frame revives it. -/
theorem verdict_of_history (timeout : Duration) (began : Moment) (events : List Event) :
    let after := (start timeout began).run
    (.frame true ∉ events →
      (after events).firsts = List.replicate (frames events).length false) ∧
    (∀ front back, events = front ++ .frame true :: back → .frame true ∉ front →
      (after events).firsts = List.replicate (frames front).length false ++
        true :: List.replicate (frames back).length false) ∧
    ((after events).monitor.expecting = true ↔ .frame true ∈ events) ∧
    (.frame true ∉ events → (after events).isExpired = false) ∧
    (∀ front keepalive back, events = front ++ .frame keepalive :: back → frames back = [] →
      ((after events).isExpired = true ↔ .frame true ∈ events ∧ timeout ≤ elapsed back)) ∧
    (∀ silence, frames silence = [] → (after events).isExpired = true →
      (after (events ++ silence)).isExpired = true) ∧
    (0 < timeout → ∀ keepalive, (after (events ++ [.frame keepalive])).isExpired = false) := by
  refine ⟨fun hNone => firsts_run (.inr hNone), ?_, expecting_run_start timeout began events,
    isExpired_run_start_eq_false, ?_, fun silence => isExpired_run_start_append, ?_⟩
  · rintro front back rfl hFront
    exact firsts_run_start hFront back
  · rintro front keepalive back rfl hBack
    exact isExpired_run_start front keepalive hBack
  · intro hTimeout keepalive
    refine Bool.eq_false_iff.2 fun hExpired => ?_
    exact Nat.not_le_of_gt hTimeout ((isExpired_run_start events keepalive rfl).1 hExpired).2

end Diary

end RobotBus.Keepalive
