import RobotBus.Proofs.Transport.Silence
import RobotBus.Proofs.Transport.Stopping

/-!
# What a connection makes of a stream

A connection among others, with a peer that may send anything. The peer sends some bytes and then
closes the stream or keeps it open. The first bytes came behind the header of the handshake, the
others are read whenever the connection waits for them, any number at a time, and reads may be given
up in between. Nobody stops the connection or interrupts one of its steps, and its socket does not
break.

Whatever the bytes are, there is a longest row of frames at the front of the stream
(`Wire.longestFront_drain`). What the connection has dispatched stands at the front of the stream,
and what is left of it is in the receive buffer or unread (`Follows`). So the connection dispatches
the longest row and nothing else: it goes on while there are frames, and it ends by what is behind
them or by the end of the stream (`dispatches_longest_front`).
-/

namespace RobotBus

namespace Wire

/-! ## The front of a stream -/

/-- The stream holds some frames one after the other, none of them too long, and then the rest. -/
structure BeginsWith (limit : Nat) (stream : Bytes) (frames : List Frame) (rest : Bytes) :
    Prop where
  fits : ∀ frame ∈ frames, frame.payload.length ≤ limit
  split : ∃ front, Encoded frames front ∧ stream = front ++ rest

/-- The stream holds these frames, and no others than these and the first ones of them. -/
structure LongestFront (limit : Nat) (stream : Bytes) (frames : List Frame) (rest : Bytes) :
    Prop extends BeginsWith limit stream frames rest where
  longest : ∀ others behind, BeginsWith limit stream others behind → others <+: frames

namespace BeginsWith

variable {limit : Nat} {stream buffer rest : Bytes} {frames : List Frame}

theorem nil (limit : Nat) (stream : Bytes) : BeginsWith limit stream [] stream :=
  ⟨nofun, [], .nil, rfl⟩

/-- A frame that is decoded continues the row. -/
theorem concat (h : BeginsWith limit stream frames buffer) {frame : Frame}
    (hItem : (Frame.decoder limit).decode buffer = .item frame rest) :
    BeginsWith limit stream (frames ++ [frame]) rest := by
  obtain ⟨hFits, base, bytes, hEncode, rfl⟩ :=
    Frame.read_eq_ok_iff.1 (Frame.decode_eq_item_iff.1 hItem)
  obtain ⟨front, hFront, hStream⟩ := h.split
  refine ⟨?_, front ++ bytes, hFront.append (.singleton hEncode), ?_⟩
  · intro other hOther
    rcases List.mem_append.1 hOther with hOld | hNew
    · exact h.fits other hOld
    · rw [List.mem_singleton.1 hNew]
      exact hFits
  · rw [hStream, List.append_assoc]

theorem length_le (h : BeginsWith limit stream frames rest) : rest.length ≤ stream.length := by
  obtain ⟨front, _, rfl⟩ := h.split
  rw [List.length_append]
  exact Nat.le_add_left rest.length front.length

/-- Draining a stream leads to each row of frames at its front. -/
theorem drain (h : BeginsWith limit stream frames rest) :
    (Frame.decoder limit).drain stream =
      { (Frame.decoder limit).drain rest with
        items := frames ++ ((Frame.decoder limit).drain rest).items } := by
  obtain ⟨hFits, front, hFront, rfl⟩ := h
  induction hFront with
  | nil => rfl
  | cons hEncode _ ih =>
    rw [List.forall_mem_cons] at hFits
    rw [List.append_assoc,
      Decoder.drain_of_item (Frame.decode_of_encode hFits.1 hEncode _), ih hFits.2]
    rfl

theorem drain_of_incomplete (h : BeginsWith limit stream frames rest) {missing : Nat}
    (hRest : (Frame.decoder limit).decode rest = .incomplete missing) :
    (Frame.decoder limit).drain stream = ⟨frames, rest, .incomplete missing⟩ := by
  rw [h.drain, Decoder.drain_of_incomplete hRest, List.append_nil]

theorem drain_of_malformed (h : BeginsWith limit stream frames rest) {cause : Malformed}
    (hRest : (Frame.decoder limit).decode rest = .malformed cause) :
    (Frame.decoder limit).drain stream = ⟨frames, rest, .malformed cause⟩ := by
  rw [h.drain, Decoder.drain_of_malformed hRest, List.append_nil]

/-- What draining a buffer leads to continues the row. -/
theorem append_drain (h : BeginsWith limit stream frames buffer) :
    BeginsWith limit stream (frames ++ ((Frame.decoder limit).drain buffer).items)
      ((Frame.decoder limit).drain buffer).rest := by
  fun_induction Decoder.drain (Frame.decoder limit) buffer generalizing frames with
  | case1 buffer missing hDecode =>
    rw [List.append_nil]
    exact h
  | case2 buffer cause hDecode =>
    rw [List.append_nil]
    exact h
  | case3 buffer frame rest hDecode _ more =>
    rename_i ih
    have hMore := ih (h.concat hDecode)
    rw [List.append_assoc] at hMore
    exact hMore

end BeginsWith

/-- **Every stream has a longest row of frames at its front.** -/
theorem longestFront_drain (limit : Nat) (stream : Bytes) :
    LongestFront limit stream ((Frame.decoder limit).drain stream).items
      ((Frame.decoder limit).drain stream).rest where
  toBeginsWith := (BeginsWith.nil limit stream).append_drain
  longest := by
    intro others behind hOthers
    rw [hOthers.drain]
    exact List.prefix_append _ _

end Wire

namespace Transport

open Simulation (Machine)
open Wire (Frame BeginsWith LongestFront)

/-! ## Steps -/

/-- What a connection does last: it leaves its node, and then it tells its last state. -/
def Endpoint.parting (far : Endpoint) (notice : Notice) (state : State) : List Effect :=
  [.close, .perform (.removeIf far.node far.name far.ends.link), .note notice, .publish state]

/-- How a connection ends with some bytes that no frame begins with: they are no part of a frame, or
the peer has closed the stream within one. -/
inductive Ending (limit : Nat) (closes : Bool) (unread rest : Bytes) : State → Prop
  | fault {cause : Wire.Malformed} : (Frame.decoder limit).decode rest = .malformed cause →
    Ending limit closes unread rest .failed
  | close {missing : Nat} : closes = true → unread = [] →
    (Frame.decoder limit).decode rest = .incomplete missing →
    Ending limit closes unread rest .closing

/-- A scene, with the bytes that the peer of its connection has sent and that were not read yet. -/
structure Intake (σ : Type) where
  scene : Scene σ
  unread : Bytes

namespace Intake

variable {σ : Type}

inductive Event
  /-- Somebody does something to the nodes. -/
  | task (task : Task)
  | elapse (now : Moment)
  | proceed
  /-- A waiting connection reads the next bytes. -/
  | read (count : Nat)
  /-- A waiting connection has read everything, and the stream is closed. -/
  | hangUp
  /-- A read takes too long and is given up. -/
  | giveUp
deriving DecidableEq, Repr

/-- The connection waits for bytes. -/
def waits (intake : Intake σ) : Bool :=
  intake.scene.machine.deadline?.isSome

/-- The connection waits, and everything was read. -/
def isQuiet (intake : Intake σ) : Bool :=
  intake.waits && intake.unread.isEmpty

/-- The last state of the connection, once it has ended. -/
def lastState? (intake : Intake σ) : Option State :=
  match intake.scene.machine with
  | .connection connection =>
    match connection.stage with
    | .ended state => some state
    | _ => none
  | _ => none

def effects (intake : Intake σ) : List Effect :=
  effectsOf intake.scene.timeline

def start (far : Endpoint) (leftover later : Bytes) (net : Network σ) : Intake σ where
  scene := { machine := .connection (far.connect leftover net.now), net }
  unread := later

/-- `closes` says whether the peer closes the stream behind its bytes. An event that is not possible
changes nothing. -/
def step (behaviour : Behaviour σ) (closes : Bool) (intake : Intake σ) : Event → Intake σ
  | .task task => { intake with scene := intake.scene.step behaviour (.task task) }
  | .elapse now => { intake with scene := intake.scene.step behaviour (.elapse now) }
  | .proceed => { intake with scene := intake.scene.step behaviour .proceed }
  | .read count =>
    if intake.waits ∧ intake.unread.take count ≠ [] then
      { scene := intake.scene.step behaviour
          (.receive 0 (.received (intake.unread.take count)))
        unread := intake.unread.drop count }
    else
      intake
  | .hangUp =>
    if intake.isQuiet ∧ closes then
      { intake with scene := intake.scene.step behaviour (.receive 0 .endOfStream) }
    else
      intake
  | .giveUp => { intake with scene := intake.scene.step behaviour (.receive 0 .time) }

def run (behaviour : Behaviour σ) (closes : Bool) (intake : Intake σ) (events : List Event) :
    Intake σ :=
  events.foldl (step behaviour closes) intake

/-- What a connection does to get to the end of a stream: it looks at its buffer, reads what is
unread, looks at its buffer again, and finds the stream closed. A frame takes two steps, and has at
least one byte. -/
def finishing (stream unread : Bytes) : List Event :=
  let looks := List.replicate (2 * stream.length + 2) .proceed
  looks ++ .read unread.length :: looks ++ [.hangUp]

theorem ne_giveUp_of_mem_finishing {stream unread : Bytes} :
    ∀ event ∈ finishing stream unread, event ≠ .giveUp := by
  rintro _ hEvent rfl
  simp [finishing, List.mem_replicate] at hEvent

theorem run_append (behaviour : Behaviour σ) (closes : Bool) (intake : Intake σ)
    (events events' : List Event) :
    intake.run behaviour closes (events ++ events') =
      (intake.run behaviour closes events).run behaviour closes events' :=
  List.foldl_append

end Intake

namespace Connection

variable {connection : Connection}

/-- A connection that ends by itself, and is not stopped, has met a fault. -/
theorem finish_of_proceed (connection : Connection)
    (hName : Path.isLinkName connection.name = true) (now : Moment)
    (h : (connection.proceed now false).1.isEnded = true) :
    connection.proceed now false = (connection, []) ∨
      ∃ cause notice, (Frame.decoder connection.config.maxPayloadLength).decode connection.buffer =
          .malformed cause ∧
        connection.proceed now false = connection.finish .failed notice := by
  have hProceeds := connection.proceeds now false
  generalize connection.proceed now false = step at h hProceeds ⊢
  cases hProceeds with
  | register hStage =>
    rw [register, if_pos hName] at h
    cases h
  | read hStage =>
    rw [read] at h ⊢
    split at h
    · cases h
    · rename_i cause hMalformed
      exact .inr ⟨cause, _, hMalformed, rfl⟩
    · cases h
  | goOn => cases h
  | nothing => exact .inl rfl

/-- An upper bound for the number of steps that a connection takes before it waits or ends. A frame
takes two steps, and has at least one byte. -/
def backlog (connection : Connection) : Nat :=
  match connection.stage with
  | .opening | .dispatched .. => 2 * connection.buffer.length + 2
  | .reading => 2 * connection.buffer.length + 1
  | .waiting _ | .ended _ => 0

theorem backlog_le (connection : Connection) :
    connection.backlog ≤ 2 * connection.buffer.length + 2 := by
  rw [backlog]
  split <;> omega

theorem isRunning_eq_false_iff : connection.isRunning = false ↔ connection.backlog = 0 := by
  rw [isRunning, backlog]
  cases connection.stage <;> simp

theorem backlog_proceed_lt (h : connection.isRunning = true) (now : Moment) (stopped : Bool) :
    (connection.proceed now stopped).1.backlog < connection.backlog := by
  have hProceeds := connection.proceeds now stopped
  generalize connection.proceed now stopped = step at hProceeds ⊢
  cases hProceeds with
  | giveUp hStage | finish hStage =>
    rw [backlog.eq_def connection, hStage]
    exact Nat.succ_pos _
  | register hStage =>
    rw [backlog.eq_def connection, hStage, register]
    split
    · exact Nat.lt_succ_self _
    · exact Nat.succ_pos _
  | read hStage =>
    rw [backlog.eq_def connection, hStage, read]
    split
    · rename_i frame rest hItem
      have hShrinks := (Frame.decoder _).shrinks _ _ _ hItem
      show 2 * rest.length + 2 < 2 * connection.buffer.length + 1
      omega
    · exact Nat.succ_pos _
    · exact Nat.succ_pos _
  | goOn _ hStage =>
    rw [backlog.eq_def connection, hStage]
    exact Nat.lt_succ_self _
  | nothing _ hIdle =>
    rw [h] at hIdle
    cases hIdle

theorem proceed_of_idle (h : connection.isRunning = false) (now : Moment) (stopped : Bool) :
    connection.proceed now stopped = (connection, []) := by
  rw [isRunning] at h
  rw [proceed]
  cases hStage : connection.stage with
  | opening | reading | dispatched frame since =>
    rw [hStage] at h
    cases h
  | waiting pollEnd | ended state => rfl

/-- A connection that does not go on by itself waits or has ended. -/
theorem waits_or_isEnded (h : connection.isRunning = false) :
    connection.deadline?.isSome = true ∨ connection.isEnded = true := by
  rw [isRunning] at h
  rw [deadline?, isEnded]
  cases hStage : connection.stage with
  | opening | reading | dispatched frame since =>
    rw [hStage] at h
    cases h
  | waiting pollEnd => exact .inl rfl
  | ended state => exact .inr rfl

/-- A read that is given up changes nothing, or the connection looks at its buffer again, or it is
given up for silence. -/
theorem receive_time_cases (connection : Connection) (now : Moment) :
    connection.receive now .time = (connection, []) ∨
      connection.receive now .time = ({ connection with stage := .reading }, []) ∨
      ∃ span, connection.receive now .time =
        connection.finish .closing (.keepaliveExpired span) := by
  rw [receive]
  split
  · simp only
    split
    · split
      · exact .inr (.inr ⟨_, rfl⟩)
      · exact .inr (.inl rfl)
    · exact .inl rfl
  · exact .inl rfl

theorem receive_received (h : connection.deadline?.isSome) (now : Moment) (bytes : Bytes) :
    connection.receive now (.received bytes) =
      ({ connection with buffer := connection.buffer ++ bytes, stage := .reading },
        [.note (.bytesReceived bytes.length)]) := by
  rw [deadline?] at h
  split at h
  · rename_i pollEnd hStage
    rw [receive, hStage]
  · cases h

theorem receive_endOfStream (h : connection.deadline?.isSome) (now : Moment) :
    connection.receive now .endOfStream = connection.finish .closing .connectionClosedByPeer := by
  rw [deadline?] at h
  split at h
  · rename_i pollEnd hStage
    rw [receive, hStage]
  · cases h

end Connection

namespace Scene

variable {σ : Type}

/-- A step without effects. -/
theorem act_nothing (scene : Scene σ) : scene.act (scene.machine, []) = scene := by
  simp only [act, List.map_nil, List.append_nil]
  rfl

/-- A transport does not stop itself. -/
theorem isStopped_act (scene : Scene σ) (done : Machine × List Effect) :
    (scene.act done).isStopped = scene.isStopped := by
  have hEffects : Mark.stop ∉ done.2.map Mark.effect := by
    intro hStop
    obtain ⟨effect, _, hSame⟩ := List.mem_map.1 hStop
    cases hSame
  rw [Bool.eq_iff_iff, isStopped_iff, isStopped_iff, act, List.mem_append]
  exact or_iff_left hEffects

end Scene

namespace Intake

theorem isQuiet_iff {intake : Intake σ} :
    intake.isQuiet = true ↔ intake.waits = true ∧ intake.unread = [] := by
  rw [isQuiet, Bool.and_eq_true, List.isEmpty_iff]

/-- A stream that is open does not end. -/
theorem step_hangUp_of_open (behaviour : Behaviour σ) (intake : Intake σ) :
    intake.step behaviour false .hangUp = intake :=
  if_neg fun h => Bool.false_ne_true h.2

/-- Everything can be read at once. -/
theorem unread_read {behaviour : Behaviour σ} {closes : Bool} {intake : Intake σ}
    (hWaits : intake.waits = true) {count : Nat} (hCount : intake.unread.length ≤ count) :
    (intake.step behaviour closes (.read count)).unread = [] := by
  rw [step, List.take_of_length_le hCount, List.drop_of_length_le hCount]
  split
  · rfl
  · rename_i hNothing
    exact Decidable.not_not.1 fun hUnread => hNothing ⟨hWaits, hUnread⟩

/-! ## Connections that have ended -/

theorem isEnded_step {behaviour : Behaviour σ} {closes : Bool} {intake : Intake σ}
    (h : intake.scene.machine.isEnded = true) (event : Event) :
    (intake.step behaviour closes event).scene.machine.isEnded = true := by
  have hScene : ∀ event, (intake.scene.step behaviour event).machine.isEnded = true := by
    intro event
    rw [(Scene.step_of_isEnded behaviour h event).1]
    exact h
  cases event with
  | task task | elapse now | proceed | giveUp => exact hScene _
  | read count | hangUp =>
    rw [step]
    split
    · exact hScene _
    · exact h

theorem isEnded_run {behaviour : Behaviour σ} {closes : Bool} {intake : Intake σ}
    (h : intake.scene.machine.isEnded = true) (events : List Event) :
    (intake.run behaviour closes events).scene.machine.isEnded = true := by
  induction events generalizing intake with
  | nil => exact h
  | cons event events ih => exact ih (isEnded_step h event)

/-! ## The invariant -/

/-- The connection has ended. If it was not given up for silence, then its last bytes say why. -/
structure Ended (far : Endpoint) (closes : Bool) (intake : Intake σ) (rest : Bytes)
    (state : State) : Prop where
  ending : (∃ span, .note (.keepaliveExpired span) ∈ intake.effects) ∨
    Ending far.config.maxPayloadLength closes intake.unread rest state
  parting : ∃ before notice, intake.effects = before ++ far.parting notice state

/-- A connection that has dispatched some frames, and they are at the front of the stream. -/
structure Follows (far : Endpoint) (closes : Bool) (stream : Bytes) (intake : Intake σ)
    (connection : Connection) (dispatched : List Frame) : Prop where
  machine_eq : intake.scene.machine = .connection connection
  unstopped : intake.scene.isStopped = false
  serves : far.Serves connection
  begins : BeginsWith far.config.maxPayloadLength stream dispatched
    (connection.buffer ++ intake.unread)
  delivered : deliveries intake.effects = dispatched.map far.delivery
  ended : ∀ state, connection.stage = .ended state →
    intake.Ended far closes (connection.buffer ++ intake.unread) state

theorem effects_act (scene : Scene σ) (done : Machine × List Effect) (unread : Bytes) :
    (Intake.mk (scene.act done) unread).effects = effectsOf scene.timeline ++ done.2 := by
  rw [effects, Scene.act, effectsOf_append, effectsOf_effects]

theorem ended_finish {far : Endpoint} {connection : Connection} (hServes : far.Serves connection)
    {closes : Bool} (scene : Scene σ) {unread rest : Bytes} {state : State} {notice : Notice}
    (hEnding : (∃ span, notice = .keepaliveExpired span) ∨
      Ending far.config.maxPayloadLength closes unread rest state) :
    Ended far closes ⟨scene.act (.connection (connection.finish state notice).1,
      (connection.finish state notice).2), unread⟩ rest state := by
  have hParting : (connection.finish state notice).2 = far.parting notice state := by
    rw [Connection.finish, hServes.node_eq, hServes.name_eq, hServes.ends_eq]
    rfl
  rw [hParting]
  refine ⟨hEnding.imp_left ?_, _, notice, effects_act ..⟩
  rintro ⟨span, rfl⟩
  rw [effects_act]
  exact ⟨span, List.mem_append_right _ (by simp [Endpoint.parting])⟩

namespace Follows

variable {far : Endpoint} {closes : Bool} {stream : Bytes} {intake : Intake σ}
  {connection : Connection} {dispatched : List Frame}

theorem start (far : Endpoint) (closes : Bool) (leftover later : Bytes) (net : Network σ) :
    Follows far closes (leftover ++ later) (start far leftover later net)
      (far.connect leftover net.now) [] where
  machine_eq := rfl
  unstopped := rfl
  serves := .connect far leftover net.now
  begins := .nil _ _
  delivered := rfl
  ended := nofun

/-- The connection has taken the next frames off the stream and does something. -/
theorem act (h : Follows far closes stream intake connection dispatched)
    {done : Connection × List Effect} {unread : Bytes} {taken : List Frame}
    (hServes : far.Serves done.1)
    (hBegins : BeginsWith far.config.maxPayloadLength stream (dispatched ++ taken)
      (done.1.buffer ++ unread))
    (hDeliveries : deliveries done.2 = taken.map far.delivery)
    (hEnded : ∀ state, done.1.stage = .ended state →
      Ended far closes ⟨intake.scene.act (.connection done.1, done.2), unread⟩
        (done.1.buffer ++ unread) state) :
    Follows far closes stream ⟨intake.scene.act (.connection done.1, done.2), unread⟩ done.1
      (dispatched ++ taken) where
  machine_eq := rfl
  unstopped := (Scene.isStopped_act ..).trans h.unstopped
  serves := hServes
  begins := hBegins
  delivered := by
    rw [effects_act, deliveries_append, hDeliveries, List.map_append]
    exact congrArg (· ++ _) h.delivered
  ended := hEnded

theorem act_nothing (h : Follows far closes stream intake connection dispatched) :
    intake.scene.act (.connection connection, []) = intake.scene := by
  rw [← h.machine_eq]
  exact intake.scene.act_nothing

theorem step_proceed (h : Follows far closes stream intake connection dispatched)
    (behaviour : Behaviour σ) :
    intake.step behaviour closes .proceed =
      ⟨intake.scene.act (.connection (connection.proceed intake.scene.net.now false).1,
        (connection.proceed intake.scene.net.now false).2), intake.unread⟩ := by
  rw [step, Scene.step, h.machine_eq, h.unstopped]
  rfl

theorem proceed (h : Follows far closes stream intake connection dispatched)
    (hName : Path.isLinkName far.name = true) (behaviour : Behaviour σ) :
    ∃ taken, Follows far closes stream (intake.step behaviour closes .proceed)
      (connection.proceed intake.scene.net.now false).1 (dispatched ++ taken) := by
  rw [h.step_proceed]
  obtain ⟨hServes, hReads⟩ := h.serves.proceed intake.scene.net.now false
  rw [← h.serves.name_eq] at hName
  have hFinish := connection.finish_of_proceed hName intake.scene.net.now
  generalize connection.proceed intake.scene.net.now false = done at hServes hReads hFinish ⊢
  have hEnded : ∀ state, done.1.stage = .ended state →
      Ended far closes ⟨intake.scene.act (.connection done.1, done.2), intake.unread⟩
        (done.1.buffer ++ intake.unread) state := by
    intro state hStage
    rcases hFinish (by rw [Connection.isEnded, hStage]) with rfl | ⟨cause, notice, hFault, rfl⟩
    · rw [h.act_nothing]
      exact h.ended state hStage
    · cases hStage
      rw [h.serves.config_eq] at hFault
      have hFault := (Frame.decoder _).malformed_append _ _ intake.unread hFault
      exact ended_finish h.serves _ (.inr (.fault hFault))
  rcases hReads with ⟨hBuffer, hDeliveries⟩ | ⟨frame, hItem, hDeliveries⟩
  · refine ⟨[], h.act hServes ?_ hDeliveries hEnded⟩
    rw [hBuffer, List.append_nil]
    exact h.begins
  · refine ⟨[frame], h.act hServes ?_ hDeliveries hEnded⟩
    exact h.begins.concat ((Frame.decoder _).item_append _ _ _ _ hItem)

theorem waits_eq (h : Follows far closes stream intake connection dispatched) :
    intake.waits = connection.deadline?.isSome := by
  rw [waits, h.machine_eq]
  rfl

theorem step_receive (h : Follows far closes stream intake connection dispatched)
    (behaviour : Behaviour σ) (input : Input) :
    intake.scene.step behaviour (.receive 0 input) =
      intake.scene.act (.connection (connection.receive intake.scene.net.now input).1,
        (connection.receive intake.scene.net.now input).2) := by
  rw [Scene.step, h.machine_eq]
  rfl

theorem read (h : Follows far closes stream intake connection dispatched)
    (behaviour : Behaviour σ) (count : Nat) :
    ∃ next, Follows far closes stream (intake.step behaviour closes (.read count)) next
      dispatched := by
  rw [step]
  split
  · rename_i hReads
    have hWaits := hReads.1
    rw [h.waits_eq] at hWaits
    obtain ⟨hServes, hBuffer, hDeliveries⟩ :=
      h.serves.receive_bytes hWaits intake.scene.net.now (intake.unread.take count)
    rw [h.step_receive, ← List.append_nil dispatched]
    refine ⟨_, h.act hServes ?_ hDeliveries ?_⟩
    · rw [hBuffer, List.append_assoc, List.take_append_drop, List.append_nil]
      exact h.begins
    · rw [Connection.receive_received hWaits]
      exact nofun
  · exact ⟨connection, h⟩

theorem hangUp (h : Follows far closes stream intake connection dispatched)
    (behaviour : Behaviour σ) :
    ∃ next, Follows far closes stream (intake.step behaviour closes .hangUp) next dispatched := by
  rw [step]
  split
  · rename_i hCloses
    obtain ⟨hQuiet, hCloses⟩ := hCloses
    rw [isQuiet_iff, h.waits_eq] at hQuiet
    obtain ⟨hWaits, hUnread⟩ := hQuiet
    obtain ⟨missing, hIncomplete⟩ := h.serves.incomplete hWaits
    rw [h.step_receive, ← List.append_nil dispatched, Connection.receive_endOfStream hWaits]
    refine ⟨_, h.act (h.serves.of_running ⟨rfl, rfl, rfl, rfl⟩ rfl) ?_ rfl ?_⟩
    · rw [List.append_nil]
      exact h.begins
    · intro state hStage
      cases hStage
      rw [← List.append_nil connection.buffer, ← hUnread] at hIncomplete
      exact ended_finish h.serves _ (.inr (.close hCloses hUnread hIncomplete))
  · exact ⟨connection, h⟩

theorem giveUp (h : Follows far closes stream intake connection dispatched)
    (behaviour : Behaviour σ) :
    ∃ next, Follows far closes stream (intake.step behaviour closes .giveUp) next dispatched := by
  rw [step, h.step_receive]
  rcases connection.receive_time_cases intake.scene.net.now with hSame | hAgain | ⟨span, hFinish⟩
  · rw [hSame, h.act_nothing]
    exact ⟨connection, h⟩
  · rw [hAgain, ← List.append_nil dispatched]
    refine ⟨_, h.act (h.serves.of_running ⟨rfl, rfl, rfl, rfl⟩ rfl) ?_ rfl nofun⟩
    rw [List.append_nil]
    exact h.begins
  · rw [hFinish, ← List.append_nil dispatched]
    refine ⟨_, h.act (h.serves.of_running ⟨rfl, rfl, rfl, rfl⟩ rfl) ?_ rfl ?_⟩
    · rw [List.append_nil]
      exact h.begins
    · intro state hStage
      cases hStage
      exact ended_finish h.serves _ (.inl ⟨span, rfl⟩)

theorem step (h : Follows far closes stream intake connection dispatched)
    (hName : Path.isLinkName far.name = true) (behaviour : Behaviour σ) (event : Event) :
    ∃ next dispatched, Follows far closes stream (intake.step behaviour closes event) next
      dispatched := by
  cases event with
  | task task | elapse now =>
    exact ⟨connection, dispatched, h.machine_eq, h.unstopped, h.serves, h.begins, h.delivered,
      fun state hStage => ⟨(h.ended state hStage).ending, (h.ended state hStage).parting⟩⟩
  | proceed =>
    obtain ⟨taken, hProceed⟩ := h.proceed hName behaviour
    exact ⟨_, _, hProceed⟩
  | read count =>
    obtain ⟨next, hRead⟩ := h.read behaviour count
    exact ⟨next, dispatched, hRead⟩
  | hangUp =>
    obtain ⟨next, hHangUp⟩ := h.hangUp behaviour
    exact ⟨next, dispatched, hHangUp⟩
  | giveUp =>
    obtain ⟨next, hGiveUp⟩ := h.giveUp behaviour
    exact ⟨next, dispatched, hGiveUp⟩

theorem run (h : Follows far closes stream intake connection dispatched)
    (hName : Path.isLinkName far.name = true) (behaviour : Behaviour σ) (events : List Event) :
    ∃ next dispatched, Follows far closes stream (intake.run behaviour closes events) next
      dispatched := by
  induction events generalizing intake connection dispatched with
  | nil => exact ⟨connection, dispatched, h⟩
  | cons event events ih =>
    obtain ⟨_, _, hStep⟩ := h.step hName behaviour event
    exact ih hStep

/-! ### What was dispatched -/

/-- A connection that waits and has read everything has dispatched all frames. -/
theorem of_isQuiet (h : Follows far closes stream intake connection dispatched)
    (hQuiet : intake.isQuiet = true) :
    let drained := (Frame.decoder far.config.maxPayloadLength).drain stream
    deliveries intake.effects = drained.items.map far.delivery ∧
      ∃ missing, (Frame.decoder far.config.maxPayloadLength).decode drained.rest =
        .incomplete missing := by
  rw [isQuiet_iff, h.waits_eq] at hQuiet
  obtain ⟨hWaits, hUnread⟩ := hQuiet
  obtain ⟨missing, hIncomplete⟩ := h.serves.incomplete hWaits
  have hBegins := h.begins
  rw [hUnread, List.append_nil] at hBegins
  rw [hBegins.drain_of_incomplete hIncomplete]
  exact ⟨h.delivered, missing, hIncomplete⟩

/-- So has one that has ended, and what is behind them says how. -/
theorem of_stage (h : Follows far closes stream intake connection dispatched)
    {state : State} (hStage : connection.stage = .ended state)
    (hAlive : ∀ span, .note (.keepaliveExpired span) ∉ intake.effects) :
    let drained := (Frame.decoder far.config.maxPayloadLength).drain stream
    deliveries intake.effects = drained.items.map far.delivery ∧
      Ending far.config.maxPayloadLength closes intake.unread drained.rest state := by
  rcases (h.ended state hStage).ending with ⟨span, hExpired⟩ | hEnding
  · exact absurd hExpired (hAlive span)
  · cases hEnding with
    | fault hFault =>
      rw [h.begins.drain_of_malformed hFault]
      exact ⟨h.delivered, .fault hFault⟩
    | close hCloses hUnread hIncomplete =>
      rw [h.begins.drain_of_incomplete hIncomplete]
      exact ⟨h.delivered, .close hCloses hUnread hIncomplete⟩

/-- A connection is given up for silence only when a read is given up. -/
theorem expired_of_step (h : Follows far closes stream intake connection dispatched)
    {behaviour : Behaviour σ} {event : Event} (hEvent : event ≠ .giveUp) {span : Duration}
    (hExpired : .note (.keepaliveExpired span) ∈
      (intake.step behaviour closes event).effects) :
    .note (.keepaliveExpired span) ∈ intake.effects := by
  have hReceive : ∀ input unread, input ≠ .time →
      .note (.keepaliveExpired span) ∈
        (Intake.mk (intake.scene.step behaviour (.receive 0 input)) unread).effects →
      .note (.keepaliveExpired span) ∈ intake.effects := by
    intro input unread hInput hExpired
    rw [h.step_receive, effects_act] at hExpired
    rcases List.mem_append.1 hExpired with hOld | hNew
    · exact hOld
    · exact absurd (Connection.expires_receive_iff.1 hNew).2.1 hInput
  cases event with
  | task task | elapse now => exact hExpired
  | giveUp => exact absurd rfl hEvent
  | proceed =>
    rw [h.step_proceed, effects_act] at hExpired
    rcases List.mem_append.1 hExpired with hOld | hNew
    · exact hOld
    · exact absurd hNew (Connection.not_expires_proceed _ _ _ _)
  | read count =>
    rw [Intake.step] at hExpired
    split at hExpired
    · exact hReceive (.received _) _ nofun hExpired
    · exact hExpired
  | hangUp =>
    rw [Intake.step] at hExpired
    split at hExpired
    · exact hReceive .endOfStream _ nofun hExpired
    · exact hExpired

theorem expired_of_run (h : Follows far closes stream intake connection dispatched)
    (hName : Path.isLinkName far.name = true) {behaviour : Behaviour σ} {events : List Event}
    (hEvents : ∀ event ∈ events, event ≠ .giveUp) {span : Duration}
    (hExpired : .note (.keepaliveExpired span) ∈
      (intake.run behaviour closes events).effects) :
    .note (.keepaliveExpired span) ∈ intake.effects := by
  induction events generalizing intake connection dispatched with
  | nil => exact hExpired
  | cons event events ih =>
    obtain ⟨_, _, hStep⟩ := h.step hName behaviour event
    rw [List.forall_mem_cons] at hEvents
    exact h.expired_of_step hEvents.1 (ih hStep hEvents.2 hExpired)

/-! ### How it goes on -/

/-- A connection that goes on for long enough waits or has ended. -/
theorem run_proceed (h : Follows far closes stream intake connection dispatched)
    (hName : Path.isLinkName far.name = true) (behaviour : Behaviour σ) {n : Nat}
    (hEnough : connection.backlog ≤ n) :
    ∃ next dispatched, Follows far closes stream
        (intake.run behaviour closes (List.replicate n .proceed)) next dispatched ∧
      next.isRunning = false ∧
      (intake.run behaviour closes (List.replicate n .proceed)).unread = intake.unread := by
  induction n generalizing intake connection dispatched with
  | zero =>
    exact ⟨connection, dispatched, h, Connection.isRunning_eq_false_iff.2 (Nat.le_zero.1 hEnough),
      rfl⟩
  | succ n ih =>
    obtain ⟨taken, hProceed⟩ := h.proceed hName behaviour
    refine ih hProceed ?_
    cases hRunning : connection.isRunning with
    | true =>
      exact Nat.le_of_lt_succ (Nat.lt_of_lt_of_le
        (Connection.backlog_proceed_lt hRunning intake.scene.net.now false) hEnough)
    | false =>
      rw [Connection.proceed_of_idle hRunning, Connection.isRunning_eq_false_iff.1 hRunning]
      exact Nat.zero_le n

theorem isEnded_eq (h : Follows far closes stream intake connection dispatched) :
    intake.scene.machine.isEnded = connection.isEnded := by
  rw [h.machine_eq]
  rfl

theorem isEnded_hangUp (h : Follows far true stream intake connection dispatched)
    (behaviour : Behaviour σ) (hQuiet : intake.isQuiet = true) :
    (intake.step behaviour true .hangUp).scene.machine.isEnded = true := by
  have hWaits := (isQuiet_iff.1 hQuiet).1
  rw [h.waits_eq] at hWaits
  rw [Intake.step, if_pos ⟨hQuiet, rfl⟩, h.step_receive, Connection.receive_endOfStream hWaits]
  rfl

theorem stage_of_lastState? (h : Follows far closes stream intake connection dispatched)
    {state : State} (hState : intake.lastState? = some state) :
    connection.stage = .ended state := by
  rw [lastState?, h.machine_eq] at hState
  simp only at hState
  split at hState
  · rename_i last hStage
    rw [hStage, Option.some.inj hState]
  · cases hState

theorem lastState?_isSome (h : Follows far closes stream intake connection dispatched)
    (hEnded : connection.isEnded = true) : intake.lastState?.isSome = true := by
  rw [Connection.isEnded] at hEnded
  split at hEnded
  · rename_i state hStage
    rw [lastState?, h.machine_eq]
    simp only [hStage]
    rfl
  · cases hEnded

/-- When it waits again after it could read everything, then everything was read. -/
theorem settles (h : Follows far closes stream intake connection dispatched)
    (hName : Path.isLinkName far.name = true) (behaviour : Behaviour σ) :
    let last := intake.run behaviour closes (finishing stream intake.unread)
    last.lastState?.isSome = true ∨ last.isQuiet = true ∧ closes = false := by
  let looks := List.replicate (2 * stream.length + 2) Event.proceed
  have hEnough : ∀ {intake : Intake σ} {connection : Connection} {dispatched : List Frame},
      Follows far closes stream intake connection dispatched →
      connection.backlog ≤ 2 * stream.length + 2 := by
    intro intake connection dispatched h
    have hLength := h.begins.length_le
    rw [List.length_append] at hLength
    have hBacklog := connection.backlog_le
    omega
  intro last
  obtain ⟨_, _, hIdle, hStops, hUnread⟩ := h.run_proceed hName behaviour (hEnough h)
  obtain ⟨_, hRead⟩ := hIdle.read behaviour intake.unread.length
  obtain ⟨_, _, hAgain, hStopsAgain, hSame⟩ := hRead.run_proceed hName behaviour (hEnough hRead)
  obtain ⟨_, hLast⟩ := hAgain.hangUp behaviour
  have hRun : last = (((intake.run behaviour closes looks).step behaviour closes
      (.read intake.unread.length)).run behaviour closes looks).step behaviour closes .hangUp := by
    simp only [last, finishing, run_append]
    rfl
  rw [← hRun] at hLast
  rcases Connection.waits_or_isEnded hStops with hWaits | hEnded
  · rw [← hIdle.waits_eq] at hWaits
    rw [unread_read hWaits (Nat.le_of_eq (congrArg List.length hUnread))] at hSame
    rcases Connection.waits_or_isEnded hStopsAgain with hWaitsAgain | hEnded
    · rw [← hAgain.waits_eq] at hWaitsAgain
      have hQuiet := isQuiet_iff.2 ⟨hWaitsAgain, hSame⟩
      cases closes with
      | true =>
        refine .inl (hLast.lastState?_isSome ?_)
        rw [← hLast.isEnded_eq, hRun]
        exact hAgain.isEnded_hangUp behaviour hQuiet
      | false =>
        rw [hRun, step_hangUp_of_open]
        exact .inr ⟨hQuiet, rfl⟩
    · rw [← hAgain.isEnded_eq] at hEnded
      refine .inl (hLast.lastState?_isSome ?_)
      rw [← hLast.isEnded_eq, hRun]
      exact isEnded_step hEnded _
  · rw [← hIdle.isEnded_eq] at hEnded
    refine .inl (hLast.lastState?_isSome ?_)
    rw [← hLast.isEnded_eq, hRun]
    exact isEnded_step (isEnded_run (isEnded_step hEnded _) _) _

end Follows

/-! ### The link -/

theorem tidy_step {behaviour : Behaviour σ} {closes : Bool} {own : LinkId → Prop}
    {intake : Intake σ} (h : Scene.Tidy own intake.scene.machine.landing? intake.scene.net)
    {event : Event}
    (hEvent : ∀ task, event = .task task → ∀ link, own link → task.bound? ≠ some link) :
    Scene.Tidy own (intake.step behaviour closes event).scene.machine.landing?
      (intake.step behaviour closes event).scene.net := by
  cases event with
  | task task =>
    refine Scene.tidy_step h ?_
    rintro _ ⟨⟩
    exact hEvent task rfl
  | elapse now | proceed | giveUp => exact Scene.tidy_step h nofun
  | read count | hangUp =>
    rw [step]
    split
    · exact Scene.tidy_step h nofun
    · exact h

theorem tidy_run (behaviour : Behaviour σ) (closes : Bool) {own : LinkId → Prop}
    {intake : Intake σ} (h : Scene.Tidy own intake.scene.machine.landing? intake.scene.net)
    {events : List Event}
    (hEvents : ∀ task, .task task ∈ events → ∀ link, own link → task.bound? ≠ some link) :
    Scene.Tidy own (intake.run behaviour closes events).scene.machine.landing?
      (intake.run behaviour closes events).scene.net := by
  induction events generalizing intake with
  | nil => exact h
  | cons event events ih =>
    refine ih (tidy_step h ?_) ?_
    · rintro task rfl link hOwn
      exact hEvents task List.mem_cons_self link hOwn
    · intro task hTask link hOwn
      exact hEvents task (List.mem_cons_of_mem event hTask) link hOwn

/-- A link that only its connection registers: nobody had bound it before, and nobody else asks for
it. -/
structure Private (net : Network σ) (events : List Event) (link : LinkId) : Prop where
  unbound : ∀ id name, net.linkAt id name ≠ some link
  untouched : ∀ task, .task task ∈ events → task.bound? ≠ some link

theorem unbound_of_ended (behaviour : Behaviour σ) (closes : Bool) {far : Endpoint}
    {leftover later : Bytes} {net : Network σ} {events : List Event}
    (h : Private net events far.ends.link)
    (hEnded : ((start far leftover later net).run behaviour closes events).scene.machine.isEnded =
      true) (id : NodeId) (name : String) :
    ((start far leftover later net).run behaviour closes events).scene.net.linkAt id name ≠
      some far.ends.link := by
  have hStart : Scene.Tidy (· = far.ends.link)
      (start far leftover later net).scene.machine.landing? net := by
    rintro id name link rfl hLink
    exact absurd hLink (h.unbound id name)
  have hEvents : ∀ task, .task task ∈ events → ∀ link, link = far.ends.link →
      task.bound? ≠ some link := by
    rintro task hTask link rfl
    exact h.untouched task hTask
  intro hLink
  have hLanding := tidy_run behaviour closes hStart hEvents id name far.ends.link rfl hLink
  rw [Machine.landing?_of_isEnded hEnded] at hLanding
  cases hLanding

/-- **A connection dispatches the longest row of frames at the front of its peer's stream, and
nothing else**, wherever the bytes behind the header end and however the others are cut into reads.
At any time it has dispatched some of these frames, in order and each once. When it waits and
everything was read, or when it has ended and was not given up for silence, it has dispatched all of
them. Then the bytes behind them decide: the connection has failed if they are no part of a frame,
and otherwise it waits, or it is closing because the peer has closed the stream. Before it tells its
last state it leaves its node, and then its link is bound nowhere. From every point on it gets that
far by `finishing`. -/
theorem dispatches_longest_front (far : Endpoint) (hName : Path.isLinkName far.name = true)
    (leftover later : Bytes) (closes : Bool) :
    let limit := far.config.maxPayloadLength
    let stream := leftover ++ later
    ∃ frames rest, LongestFront limit stream frames rest ∧
      ∀ {σ : Type} (behaviour : Behaviour σ) (net : Network σ) (events : List Event),
        let intake := (start far leftover later net).run behaviour closes events
        let last := intake.run behaviour closes (finishing stream intake.unread)
        (∃ dispatched, dispatched <+: frames ∧
          deliveries intake.effects = dispatched.map far.delivery) ∧
        (intake.isQuiet = true → deliveries intake.effects = frames.map far.delivery ∧
          ∃ missing, (Frame.decoder limit).decode rest = .incomplete missing) ∧
        (∀ state, intake.lastState? = some state →
          (∃ before notice, intake.effects = before ++ far.parting notice state) ∧
          (Private net events far.ends.link →
            ∀ id name, intake.scene.net.linkAt id name ≠ some far.ends.link)) ∧
        ((∀ span, .note (.keepaliveExpired span) ∉ intake.effects) →
          (∀ state, intake.lastState? = some state →
            deliveries intake.effects = frames.map far.delivery ∧
              Ending limit closes intake.unread rest state) ∧
          deliveries last.effects = frames.map far.delivery ∧
          ((∃ state, last.lastState? = some state ∧ Ending limit closes last.unread rest state) ∨
            last.isQuiet = true ∧ closes = false)) := by
  intro limit stream
  have hLongest := Wire.longestFront_drain limit stream
  refine ⟨_, _, hLongest, ?_⟩
  intro σ behaviour net events intake last
  obtain ⟨connection, dispatched, h⟩ :=
    (Follows.start far closes leftover later net).run hName behaviour events
  refine ⟨⟨dispatched, hLongest.longest _ _ h.begins, h.delivered⟩, h.of_isQuiet, ?_, ?_⟩
  · intro state hState
    have hStage := h.stage_of_lastState? hState
    have hEnded : connection.isEnded = true := by
      rw [Connection.isEnded, hStage]
    rw [← h.isEnded_eq] at hEnded
    exact ⟨(h.ended state hStage).parting,
      fun hPrivate => unbound_of_ended behaviour closes hPrivate hEnded⟩
  · intro hAlive
    refine ⟨fun state hState => h.of_stage (h.stage_of_lastState? hState) hAlive, ?_⟩
    obtain ⟨_, _, hLast⟩ := h.run hName behaviour (finishing stream intake.unread)
    have hAliveLast : ∀ span, .note (.keepaliveExpired span) ∉ last.effects := by
      intro span hExpired
      exact hAlive span (h.expired_of_run hName ne_giveUp_of_mem_finishing hExpired)
    rcases h.settles hName behaviour with hEnded | ⟨hQuiet, hOpen⟩
    · obtain ⟨state, hState⟩ := Option.isSome_iff_exists.1 hEnded
      obtain ⟨hAll, hEnding⟩ := hLast.of_stage (hLast.stage_of_lastState? hState) hAliveLast
      exact ⟨hAll, .inl ⟨state, hState, hEnding⟩⟩
    · exact ⟨(hLast.of_isQuiet hQuiet).1, .inr ⟨hQuiet, hOpen⟩⟩

/-- A good frame comes in one read with the first bytes of a corrupt one, and the others come later.
The good one is dispatched, and then the connection fails and leaves its node. -/
theorem fails_at_corrupt_frame :
    let far : Endpoint := ⟨0, "hub", 5, {}, false⟩
    let net : Network Unit := ⟨Bindings.empty.insert 0 {}, 0, [], ()⟩
    let behaviour : Behaviour Unit := fun _ _ _ => { links := () }
    let frame : Frame := ⟨some "lamp", none, [1]⟩
    let bytes := (Frame.encode frame 0).toOption.getD []
    let later := bytes ++ bytes.set 20 2
    let events : List Event :=
      [.proceed, .proceed, .read 40, .proceed, .proceed, .proceed,
        .task (.perform (.add 0 "lamp" 9)), .read 40, .proceed]
    let intake := (start far [] later net).run behaviour false events
    intake.lastState? = some .failed ∧ deliveries intake.effects = [far.delivery frame] ∧
      (∃ before notice, intake.effects = before ++ far.parting notice .failed) ∧
      ∀ id name, intake.scene.net.linkAt id name ≠ some 5 := by
  intro far net behaviour frame bytes later events intake
  obtain ⟨_, _, _, hRuns⟩ := dispatches_longest_front far (by decide +kernel) [] later false
  obtain ⟨_, _, hLast, _⟩ := hRuns behaviour net events
  have hState : intake.lastState? = some .failed := by
    decide +kernel
  have hPrivate : Private net events 5 := by
    constructor
    · intro id name
      have hNode : net.linkAt id name = none := by
        rw [Network.linkAt, Bindings.get?_insert]
        split <;> rfl
      rw [hNode]
      exact (Option.some_ne_none _).symm
    · intro task hTask
      have hOnly : task = .perform (.add 0 "lamp" 9) := by
        simpa [events] using hTask
      rw [hOnly]
      decide
  obtain ⟨hParting, hUnbound⟩ := hLast .failed hState
  exact ⟨hState, by decide +kernel, hParting, hUnbound hPrivate⟩

end Intake

end Transport

end RobotBus
