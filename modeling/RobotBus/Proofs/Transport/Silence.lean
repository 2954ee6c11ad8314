import Mathlib.Data.List.Basic
import RobotBus.Proofs.Transport.Delivery
import RobotBus.Proofs.Transport.Stages

/-!
# Silent peers

A connection in time, however long anything takes: time passes between any two steps, also while a
frame is on its way through the node, inputs of all kinds come at any moment, and somebody may stop
the connection. Within one step no time passes and nobody acts, which is a premise. A `Record` keeps
the frames that were decoded and everything that the connection has done, each with its moment.

What a monitor knows is what the history of the decoded frames says: whether a keepalive was among
them, and when the last of them came (`Monitor.isExpired_hear_iff`). The monitor of a connection has
heard just the frames that were decoded (`Faithful`), so a connection is given up for silence only
after a keepalive, and only if no frame was decoded for as long as the timeout
(`expires_only_in_silence`).
-/

namespace RobotBus

namespace Keepalive

/-! ## Monitors -/

/-- A frame that was received, as a monitor sees it. -/
structure Sign where
  moment : Moment
  keepalive : Bool
deriving DecidableEq, Repr

namespace Monitor

/-- A monitor after all frames of a history. -/
def hear (monitor : Monitor) (signs : List Sign) : Monitor :=
  signs.foldl (fun monitor sign => monitor.receive sign.keepalive sign.moment) monitor

theorem hear_append (monitor : Monitor) (signs signs' : List Sign) :
    monitor.hear (signs ++ signs') = (monitor.hear signs).hear signs' :=
  List.foldl_append

theorem timeout_hear (monitor : Monitor) (signs : List Sign) :
    (monitor.hear signs).timeout = monitor.timeout := by
  induction signs generalizing monitor with
  | nil => rfl
  | cons sign signs ih => exact ih (monitor.receive sign.keepalive sign.moment)

/-- Keepalives are expected once one was received. -/
theorem expecting_hear (monitor : Monitor) (signs : List Sign) :
    (monitor.hear signs).expecting = (monitor.expecting || signs.any (·.keepalive)) := by
  induction signs generalizing monitor with
  | nil => exact (Bool.or_false _).symm
  | cons sign signs ih =>
    rw [List.any_cons, ← Bool.or_assoc]
    exact ih (monitor.receive sign.keepalive sign.moment)

/-- Frames of both kinds count as signs of life. -/
theorem lastReceived_hear_concat (monitor : Monitor) (signs : List Sign) (sign : Sign) :
    (monitor.hear (signs ++ [sign])).lastReceived = sign.moment := by
  rw [hear_append]
  rfl

/-- **A keepalive has expired if there was one and every frame of any kind is long ago.** -/
theorem isExpired_hear_iff {timeout : Duration} {began now : Moment} {signs : List Sign}
    (hSorted : signs.Pairwise fun earlier later => earlier.moment ≤ later.moment)
    (hPast : ∀ sign ∈ signs, sign.moment ≤ now) :
    ((start timeout began).hear signs).isExpired now = true ↔
      (∃ sign ∈ signs, sign.keepalive = true) ∧
        ∀ sign ∈ signs, sign.moment + timeout ≤ now := by
  rw [isExpired, expecting_hear, timeout_hear, Bool.and_eq_true, decide_eq_true_eq, start,
    Bool.false_or, List.any_eq_true]
  refine and_congr_right fun ⟨sign, hSign, _⟩ => ?_
  rcases signs.eq_nil_or_concat' with rfl | ⟨front, last, rfl⟩
  · cases hSign
  · rw [lastReceived_hear_concat,
      Nat.le_sub_iff_add_le' (hPast last (List.mem_concat_self))]
    constructor
    · intro hLast sign hSign
      refine Nat.le_trans (Nat.add_le_add_right ?_ timeout) hLast
      rcases List.mem_append.1 hSign with hFront | hSame
      · exact (List.pairwise_append.1 hSorted).2.2 sign hFront last List.mem_cons_self
      · exact Nat.le_of_eq (congrArg Sign.moment (List.mem_singleton.1 hSame))
    · intro hAll
      exact hAll last List.mem_concat_self

end Monitor

end Keepalive

namespace Transport

open Keepalive (Monitor Sign)
open Wire (Frame)

/-! ## Steps -/

/-- The frame that a connection decodes when it goes on by itself. -/
def Connection.decodes? (connection : Connection) (stopped : Bool) : Option Frame :=
  match connection.stage, stopped with
  | .reading, false =>
    match (Frame.decoder connection.config.maxPayloadLength).decode connection.buffer with
    | .item frame _ => some frame
    | .incomplete _ | .malformed _ => none
  | _, _ => none

/-- A connection in time, with the frames that it has decoded and what it has done. -/
structure Record where
  connection : Connection
  now : Moment
  decoded : List (Moment × Frame) := []
  done : List (Moment × Effect) := []
deriving DecidableEq, Repr

namespace Record

inductive Event
  | proceed (stopped : Bool)
  | receive (input : Input)
  | pass (span : Duration)
deriving DecidableEq, Repr

def start (far : Endpoint) (leftover : Bytes) (began : Moment) : Record :=
  { connection := far.connect leftover began, now := began }

/-- The connection has done something. -/
def act (record : Record) (done : Connection × List Effect) : Record :=
  { record with
    connection := done.1
    done := record.done ++ done.2.map fun effect => (record.now, effect) }

def step (record : Record) : Event → Record
  | .proceed stopped =>
    let frame? := record.connection.decodes? stopped
    { record with
      decoded := record.decoded ++ frame?.toList.map fun frame => (record.now, frame) }.act
      (record.connection.proceed record.now stopped)
  | .receive input => record.act (record.connection.receive record.now input)
  | .pass span => { record with now := record.now + span }

def run (record : Record) (events : List Event) : Record :=
  events.foldl step record

/-- What the monitor of the connection has heard. -/
def signs (record : Record) : List Sign :=
  record.decoded.map fun heard => ⟨heard.1, heard.2.isKeepalive⟩

/-- The connection was given up at this moment, because its peer was silent for so long. -/
def ExpiredAt (record : Record) (moment : Moment) (timeout : Duration) : Prop :=
  (moment, .note (.keepaliveExpired timeout)) ∈ record.done

/-- A keepalive was decoded, and at this moment no frame was for so long. -/
def SilentAt (record : Record) (moment : Moment) (timeout : Duration) : Prop :=
  (∃ heard ∈ record.decoded, heard.2.isKeepalive = true) ∧
    ∀ heard ∈ record.decoded, heard.1 + timeout ≤ moment

end Record

namespace Connection

variable {connection : Connection}

theorem decodes?_of_ended {state : State} (h : connection.stage = .ended state) (stopped : Bool) :
    connection.decodes? stopped = none := by
  simp only [decodes?, h]

/-- What is decoded is heard by the monitor, and nothing else is. -/
theorem monitor_proceed (connection : Connection) (now : Moment) (stopped : Bool) :
    (connection.proceed now stopped).1.monitor = connection.monitor.hear
      ((connection.decodes? stopped).toList.map fun frame => ⟨now, frame.isKeepalive⟩) := by
  cases hStage : connection.stage with
  | opening =>
    simp only [proceed, decodes?, hStage]
    cases stopped with
    | true => rfl
    | false =>
      simp only [Bool.false_eq_true, if_false, register]
      split <;> rfl
  | reading =>
    simp only [proceed, decodes?, hStage]
    cases stopped with
    | true => rfl
    | false =>
      simp only [Bool.false_eq_true, if_false, read]
      cases (Frame.decoder connection.config.maxPayloadLength).decode connection.buffer with
      | item frame rest => rfl
      | incomplete missing => rfl
      | malformed cause => rfl
  | dispatched frame since | waiting pollEnd | ended state =>
    simp only [proceed, decodes?, hStage]
    rfl

theorem monitor_receive (connection : Connection) (now : Moment) (input : Input) :
    (connection.receive now input).1.monitor = connection.monitor := by
  have h := connection.receives now input
  generalize connection.receive now input = step at h ⊢
  cases h with
  | finish notice hStage | resume buffer notices hStage => rfl
  | nothing => rfl

/-- No input is a message. -/
theorem deliveries_receive (connection : Connection) (now : Moment) (input : Input) :
    deliveries (connection.receive now input).2 = [] := by
  have h := connection.receives now input
  generalize connection.receive now input = step at h ⊢
  cases h with
  | finish notice hStage => rfl
  | resume buffer notices hStage => exact deliveries_notes notices
  | nothing => rfl

/-- A connection that goes on by itself does not look for an expired keepalive. -/
theorem not_expires_proceed (connection : Connection) (now : Moment) (stopped : Bool)
    (timeout : Duration) :
    .note (.keepaliveExpired timeout) ∉ (connection.proceed now stopped).2 := by
  have h := connection.proceeds now stopped
  generalize connection.proceed now stopped = step at h ⊢
  cases h with
  | giveUp hStage => simp [giveUp]
  | register hStage =>
    rw [register]
    split
    · cases connection.announces <;> simp
    · simp [giveUp]
  | finish hStage => simp [finish]
  | read hStage =>
    rw [read]
    split
    · simp only [dispatch, traceOf]
      repeat' split
      all_goals simp
    · simp [finish]
    · exact List.not_mem_nil
  | goOn _ hStage =>
    rw [slowness]
    split <;> simp
  | nothing => exact List.not_mem_nil

/-- A connection is given up for silence if a read was given up and its keepalive has expired. -/
theorem expires_receive_iff {now : Moment} {input : Input} {timeout : Duration} :
    .note (.keepaliveExpired timeout) ∈ (connection.receive now input).2 ↔
      (∃ pollEnd, connection.stage = .waiting pollEnd ∧ Timer.isDue pollEnd now = true) ∧
        input = .time ∧ connection.monitor.isExpired now = true ∧
        timeout = connection.config.keepaliveTimeout := by
  rw [receive]
  cases hStage : connection.stage with
  | opening | reading | dispatched frame since | ended state => simp
  | waiting pollEnd =>
    cases input with
    | stop | endOfStream => simp [finish]
    | connected | refused cause | received bytes => simp
    | broken cause regular => cases regular <;> simp [finish]
    | time =>
      by_cases hDue : Timer.isDue pollEnd now = true
      · by_cases hExpired : connection.monitor.isExpired now = true
        · simp [hDue, hExpired, finish]
        · simp [hDue, hExpired]
      · simp [hDue]

theorem stage_of_expires {now : Moment} {input : Input} {timeout : Duration}
    (h : .note (.keepaliveExpired timeout) ∈ (connection.receive now input).2) :
    (connection.receive now input).1.stage = .ended .closing := by
  obtain ⟨⟨pollEnd, hStage, hDue⟩, rfl, hExpired, _⟩ := expires_receive_iff.1 h
  simp only [receive, hStage, hDue, hExpired, if_true]
  rfl

end Connection

namespace Endpoint.Serves

variable {far : Endpoint} {reader : Connection}

/-- What is decoded is handed to the node, and nothing else is. -/
theorem deliveries_proceed (h : far.Serves reader) (now : Moment) (stopped : Bool) :
    deliveries (reader.proceed now stopped).2 =
      (reader.decodes? stopped).toList.map far.delivery := by
  cases hStage : reader.stage with
  | opening =>
    simp only [Connection.proceed, Connection.decodes?, hStage]
    cases stopped with
    | true => rfl
    | false =>
      simp only [Bool.false_eq_true, if_false, Connection.register]
      split
      · cases reader.announces with
        | true => rfl
        | false => rfl
      · rfl
  | reading =>
    simp only [Connection.proceed, Connection.decodes?, hStage]
    cases stopped with
    | true => rfl
    | false =>
      simp only [Bool.false_eq_true, if_false, Connection.read]
      cases (Frame.decoder reader.config.maxPayloadLength).decode reader.buffer with
      | item frame rest => exact h.deliveries_dispatch frame rest now
      | incomplete missing => rfl
      | malformed cause => rfl
  | dispatched frame since =>
    simp only [Connection.proceed, Connection.decodes?, hStage, Connection.slowness]
    split <;> rfl
  | waiting pollEnd | ended state =>
    simp only [Connection.proceed, Connection.decodes?, hStage]
    rfl

theorem receive_any (h : far.Serves reader) (now : Moment) (input : Input) :
    far.Serves (reader.receive now input).1 := by
  have hStep := reader.receives now input
  generalize reader.receive now input = step at hStep ⊢
  cases hStep with
  | finish notice hStage => exact h.of_running ⟨rfl, rfl, rfl, rfl⟩ rfl
  | resume buffer notices hStage => exact h.of_running ⟨rfl, rfl, rfl, rfl⟩ rfl
  | nothing => exact h

end Endpoint.Serves

/-! ## Runs -/

namespace Record

/-- What was decoded so far was handed to the node, and the monitor has heard it. If the connection
was given up, then its peer was silent. -/
structure Faithful (far : Endpoint) (began : Moment) (record : Record) : Prop where
  serves : far.Serves record.connection
  delivered : deliveries (record.done.map (·.2)) =
    record.decoded.map fun heard => far.delivery heard.2
  heard : record.connection.monitor =
    (Monitor.start far.config.keepaliveTimeout began).hear record.signs
  sorted : record.decoded.Pairwise fun earlier later => earlier.1 ≤ later.1
  past : ∀ heard ∈ record.decoded, heard.1 ≤ record.now
  silent : ∀ moment span, record.ExpiredAt moment span →
    span = far.config.keepaliveTimeout ∧ moment ≤ record.now ∧
      record.connection.stage = .ended .closing ∧ record.SilentAt moment span

theorem deliveries_act (record : Record) (done : Connection × List Effect) :
    deliveries ((record.act done).done.map (·.2)) =
      deliveries (record.done.map (·.2)) ++ deliveries done.2 := by
  have hDone : (done.2.map fun effect => (record.now, effect)).map (·.2) = done.2 := by
    rw [List.map_map]
    exact List.map_id _
  rw [act, List.map_append, deliveries_append, hDone]

theorem step_proceed_of_ended {record : Record} {state : State}
    (h : record.connection.stage = .ended state) (stopped : Bool) :
    record.step (.proceed stopped) = record := by
  simp only [step, act, Connection.decodes?_of_ended h, Connection.proceed, h, Option.toList_none,
    List.map_nil, List.append_nil]

theorem step_receive_of_ended {record : Record} {state : State}
    (h : record.connection.stage = .ended state) (input : Input) :
    record.step (.receive input) = record := by
  simp only [step, act, Connection.receive, h, List.map_nil, List.append_nil]

namespace Faithful

variable {far : Endpoint} {began : Moment} {record : Record}

theorem start (far : Endpoint) (leftover : Bytes) (began : Moment) :
    Faithful far began (start far leftover began) where
  serves := .connect far leftover began
  delivered := rfl
  heard := rfl
  sorted := .nil
  past := nofun
  silent := nofun

theorem isExpired_iff (h : Faithful far began record) :
    record.connection.monitor.isExpired record.now = true ↔
      record.SilentAt record.now far.config.keepaliveTimeout := by
  have hSorted : record.signs.Pairwise fun earlier later => earlier.moment ≤ later.moment :=
    List.pairwise_map.2 h.sorted
  have hPast : ∀ sign ∈ record.signs, sign.moment ≤ record.now :=
    List.forall_mem_map.2 h.past
  rw [h.heard, Monitor.isExpired_hear_iff hSorted hPast, signs, List.forall_mem_map, SilentAt]
  refine and_congr_left fun _ => ?_
  constructor
  · rintro ⟨sign, hSign, hKeepalive⟩
    obtain ⟨heard, hHeard, rfl⟩ := List.mem_map.1 hSign
    exact ⟨heard, hHeard, hKeepalive⟩
  · rintro ⟨heard, hHeard, hKeepalive⟩
    exact ⟨_, List.mem_map_of_mem hHeard, hKeepalive⟩

theorem proceed (h : Faithful far began record) (stopped : Bool) :
    Faithful far began (record.step (.proceed stopped)) where
  serves := (h.serves.proceed record.now stopped).1
  delivered := by
    refine (deliveries_act record _).trans ?_
    rw [h.delivered, h.serves.deliveries_proceed]
    simp only [step, act, List.map_append, List.map_map]
    rfl
  heard := by
    show (record.connection.proceed record.now stopped).1.monitor = _
    rw [Connection.monitor_proceed, h.heard, ← Monitor.hear_append]
    simp only [step, act, signs, List.map_append, List.map_map]
    rfl
  sorted := by
    refine List.pairwise_append.2 ⟨h.sorted, ?_, ?_⟩
    · cases record.connection.decodes? stopped with
      | none => exact .nil
      | some frame => exact List.pairwise_singleton _ _
    · intro earlier hEarlier later hLater
      obtain ⟨frame, _, rfl⟩ := List.mem_map.1 hLater
      exact h.past earlier hEarlier
  past := by
    intro heard hHeard
    rcases List.mem_append.1 hHeard with hOld | hNew
    · exact h.past heard hOld
    · obtain ⟨frame, _, rfl⟩ := List.mem_map.1 hNew
      exact Nat.le_refl record.now
  silent := by
    intro moment span hExpired
    rcases List.mem_append.1 hExpired with hOld | hNew
    · obtain ⟨_, _, hStage, _⟩ := h.silent moment span hOld
      rw [step_proceed_of_ended hStage]
      exact h.silent moment span hOld
    · obtain ⟨effect, hEffect, hSame⟩ := List.mem_map.1 hNew
      obtain ⟨rfl, rfl⟩ := Prod.mk.inj hSame
      exact (Connection.not_expires_proceed _ _ _ _ hEffect).elim

theorem receive (h : Faithful far began record) (input : Input) :
    Faithful far began (record.step (.receive input)) where
  serves := h.serves.receive_any record.now input
  delivered := by
    refine (deliveries_act record _).trans ?_
    rw [Connection.deliveries_receive, List.append_nil]
    exact h.delivered
  heard := (Connection.monitor_receive ..).trans h.heard
  sorted := h.sorted
  past := h.past
  silent := by
    intro moment span hExpired
    rcases List.mem_append.1 hExpired with hOld | hNew
    · obtain ⟨_, _, hStage, _⟩ := h.silent moment span hOld
      rw [step_receive_of_ended hStage]
      exact h.silent moment span hOld
    · obtain ⟨effect, hEffect, hSame⟩ := List.mem_map.1 hNew
      obtain ⟨rfl, rfl⟩ := Prod.mk.inj hSame
      obtain ⟨_, _, hMonitor, rfl⟩ := Connection.expires_receive_iff.1 hEffect
      rw [h.serves.config_eq]
      exact ⟨rfl, Nat.le_refl _, Connection.stage_of_expires hEffect, h.isExpired_iff.1 hMonitor⟩

theorem pass (h : Faithful far began record) (span : Duration) :
    Faithful far began (record.step (.pass span)) where
  serves := h.serves
  delivered := h.delivered
  heard := h.heard
  sorted := h.sorted
  past heard hHeard := Nat.le_add_right_of_le (h.past heard hHeard)
  silent moment span hExpired := by
    obtain ⟨hSpan, hMoment, hEnded⟩ := h.silent moment span hExpired
    exact ⟨hSpan, Nat.le_add_right_of_le hMoment, hEnded⟩

theorem run (h : Faithful far began record) (events : List Event) :
    Faithful far began (record.run events) := by
  induction events generalizing record with
  | nil => exact h
  | cons event events ih =>
    cases event with
    | proceed stopped => exact ih (h.proceed stopped)
    | receive input => exact ih (h.receive input)
    | pass span => exact ih (h.pass span)

end Faithful

/-- **A connection is given up for silence only after a keepalive, and only if no frame was decoded
for as long as the timeout.** The decoded frames are those that were handed to the node. Whoever
never sent a keepalive is not given up, and a frame of any kind keeps the connection for as long as
the timeout. When the time for a read is up, silence is all that counts. -/
theorem expires_only_in_silence (far : Endpoint) (leftover : Bytes) (began : Moment)
    (events : List Event) :
    let record := (start far leftover began).run events
    let timeout := far.config.keepaliveTimeout
    (deliveries (record.done.map (·.2)) =
      record.decoded.map fun heard => far.delivery heard.2) ∧
    (∀ moment span, record.ExpiredAt moment span →
      span = timeout ∧ record.connection.stage = .ended .closing ∧
        record.SilentAt moment timeout) ∧
    ((∀ heard ∈ record.decoded, heard.2.isKeepalive = false) →
      ∀ moment span, ¬record.ExpiredAt moment span) ∧
    (∀ heard ∈ record.decoded, ∀ moment, moment < heard.1 + timeout →
      ∀ span, ¬record.ExpiredAt moment span) ∧
    (∀ pollEnd, record.connection.stage = .waiting pollEnd →
      Timer.isDue pollEnd record.now = true →
      ((record.step (.receive .time)).ExpiredAt record.now timeout ↔
        record.SilentAt record.now timeout)) := by
  intro record timeout
  have h : Faithful far began record := (Faithful.start far leftover began).run events
  refine ⟨h.delivered, ?_, ?_, ?_, ?_⟩
  · intro moment span hExpired
    obtain ⟨rfl, _, hStage, hSilent⟩ := h.silent moment span hExpired
    exact ⟨rfl, hStage, hSilent⟩
  · intro hNone moment span hExpired
    obtain ⟨_, _, _, ⟨heard, hHeard, hKeepalive⟩, _⟩ := h.silent moment span hExpired
    rw [hNone heard hHeard] at hKeepalive
    cases hKeepalive
  · intro heard hHeard moment hLively span hExpired
    obtain ⟨rfl, _, _, _, hSilent⟩ := h.silent moment span hExpired
    exact Nat.lt_irrefl moment (Nat.lt_of_lt_of_le hLively (hSilent heard hHeard))
  · intro pollEnd hStage hDue
    rw [← h.isExpired_iff]
    constructor
    · intro hExpired
      rcases List.mem_append.1 hExpired with hOld | hNew
      · -- a connection that was given up does not wait
        obtain ⟨_, _, hEnded, _⟩ := h.silent record.now timeout hOld
        rw [hStage] at hEnded
        cases hEnded
      · obtain ⟨effect, hEffect, hSame⟩ := List.mem_map.1 hNew
        obtain ⟨_, rfl⟩ := Prod.mk.inj hSame
        exact (Connection.expires_receive_iff.1 hEffect).2.2.1
    · intro hMonitor
      refine List.mem_append_right _ (List.mem_map_of_mem (Connection.expires_receive_iff.2 ?_))
      exact ⟨⟨pollEnd, hStage, hDue⟩, rfl, hMonitor, by rw [h.serves.config_eq]⟩

/-- A keepalive comes with the header and an ordinary frame after 400 ms, and then nothing more. The
reads that are given up change nothing until the timeout of 5 s has passed since the ordinary
frame. -/
theorem expires_behind_ordinary_frame :
    let far : Endpoint := ⟨0, "hub", 5, {}, false⟩
    let bytes := fun (frame : Frame) base => (frame.encode base).toOption.getD []
    let ordinary : Input := .received (bytes ⟨some "lamp", none, [1]⟩ 1)
    let poll : List Event := [.pass (Duration.milliseconds 500), .receive .time, .proceed false]
    let events : List Event :=
      List.replicate 4 (.proceed false) ++ [.pass (Duration.milliseconds 400), .receive ordinary] ++
        List.replicate 3 (.proceed false) ++ (List.replicate 9 poll).flatten ++
        [.pass (Duration.milliseconds 500)]
    let record := (start far (bytes Frame.keepalive 0) 0).run events
    let polled := record.step (.receive .time)
    (∀ moment span, ¬record.ExpiredAt moment span) ∧
      polled.ExpiredAt (Duration.milliseconds 5400) (Duration.seconds 5) := by
  intro far bytes ordinary poll events record polled
  obtain ⟨_, hEnded, _, _, hDue⟩ := expires_only_in_silence far (bytes Frame.keepalive 0) 0 events
  have hStage : record.connection.stage = .waiting (Duration.milliseconds 5400) := by
    decide +kernel
  have hNow : record.now = Duration.milliseconds 5400 := by
    decide +kernel
  refine ⟨fun moment span hExpired => ?_, ?_⟩
  · have hClosed := (hEnded moment span hExpired).2.1
    rw [hStage] at hClosed
    cases hClosed
  · refine hNow ▸ (hDue _ hStage (by decide +kernel)).2 ⟨?_, ?_⟩
    · decide +kernel
    · decide +kernel

end Record

end Transport

end RobotBus
