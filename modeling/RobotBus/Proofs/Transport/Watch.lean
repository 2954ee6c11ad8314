import RobotBus.Proofs.Wire.Stream
import RobotBus.Transport.Connection

/-!
# Connections in time

A connection whose surroundings take no time: time passes only while it waits, and not beyond the
moment at which its timer goes off. Bytes arrive whenever they like. Nobody stops the connection,
and the peer leaves the stream open.

A connection looks for an expired keepalive only when a read was given up. So it is closed in time
if no bytes come after the keepalive has expired (`closed_in_time`). Bytes that come then begin a
new read each, and a frame that comes slowly enough keeps the connection open until it is complete
(`outlasted_by_slow_frame`).
-/

namespace RobotBus

namespace Timer

/-- The moment at which a timer goes off. -/
def firingMoment (deadline : Moment) : Moment :=
  firingTick deadline * resolution

theorem isDue_iff {deadline now : Moment} :
    isDue deadline now = true ↔ firingMoment deadline ≤ now := by
  rw [isDue, decide_eq_true_eq, tick, firingMoment, Nat.le_div_iff_mul_le (by decide)]

theorem le_firingMoment (deadline : Moment) : deadline ≤ firingMoment deadline :=
  le_of_isDue (isDue_iff.2 (Nat.le_refl _))

theorem le_firingMoment_of_le {now deadline : Moment} (h : now ≤ deadline) :
    now ≤ firingMoment deadline :=
  Nat.le_trans h (le_firingMoment deadline)

theorem firingMoment_lt (deadline : Nat) : firingMoment deadline < deadline + resolution := by
  show (deadline + (1 * 1000000 - 1)) / (1 * 1000000) * (1 * 1000000) < deadline + 1 * 1000000
  omega

theorem firingMoment_mono {deadline deadline' : Moment} (h : deadline ≤ deadline') :
    firingMoment deadline ≤ firingMoment deadline' :=
  Nat.mul_le_mul_right _ (Nat.div_le_div_right (Nat.add_le_add_right h _))

end Timer

namespace Transport

open Wire (Frame)

structure Watch where
  connection : Connection
  now : Moment
  /-- The moment at which bytes have arrived last. -/
  heard : Moment
  effects : List Effect := []
deriving DecidableEq, Repr

namespace Watch

inductive Event
  | proceed
  | arrive (bytes : Bytes)
  /-- The timer goes off, if it is due. -/
  | fire
  | pass (span : Duration)
deriving DecidableEq, Repr

/-- The connection has done something. -/
def act (watch : Watch) (done : Connection × List Effect) : Watch :=
  { watch with connection := done.1, effects := watch.effects ++ done.2 }

def step (watch : Watch) : Event → Watch
  | .proceed => watch.act (watch.connection.proceed watch.now false)
  | .arrive bytes =>
    match watch.connection.deadline? with
    | some _ =>
      { watch with heard := watch.now }.act
        (watch.connection.receive watch.now (.received bytes))
    | none => watch
  | .fire => watch.act (watch.connection.receive watch.now .time)
  | .pass span =>
    match watch.connection.deadline? with
    | some pollEnd =>
      if watch.now + span ≤ Timer.firingMoment pollEnd then
        { watch with now := watch.now + span }
      else
        watch
    | none => watch

def run (watch : Watch) (events : List Event) : Watch :=
  events.foldl step watch

theorem run_append (watch : Watch) (events events' : List Event) :
    watch.run (events ++ events') = (watch.run events).run events' :=
  List.foldl_append

/-- The last moment at which a read can begin of which nothing comes. -/
def lastRead (watch : Watch) : Moment :=
  max watch.heard (watch.connection.monitor.lastReceived + watch.connection.config.keepaliveTimeout)

/-- A connection is patient: a read that goes on was begun while the keepalive had not expired, or
with the last bytes that came, and it takes no longer than it may. -/
def IsPatient (watch : Watch) : Prop :=
  match watch.connection.stage with
  | .opening | .reading | .dispatched .. => watch.now ≤ watch.lastRead
  | .waiting pollEnd =>
    pollEnd ≤ watch.lastRead + watch.connection.config.readPollTimeout ∧
      watch.now ≤ Timer.firingMoment pollEnd
  | .ended _ => True

/-- A connection that expects keepalives is patient. -/
structure OnTime (watch : Watch) : Prop where
  timeout_eq : watch.connection.monitor.timeout = watch.connection.config.keepaliveTimeout
  patient : watch.connection.monitor.expecting = true → watch.IsPatient

namespace OnTime

variable {watch : Watch}

theorem start (node : NodeId) (name : String) (fresh : LinkId) (config : Config)
    (announces : Bool) (leftover : Bytes) (now : Moment) :
    OnTime ⟨.start node name fresh config announces leftover now, now, now, []⟩ :=
  ⟨rfl, nofun⟩

theorem of_read (h : OnTime watch)
    (hPatient : watch.connection.monitor.expecting = true → watch.now ≤ watch.lastRead) :
    OnTime (watch.act (watch.connection.read watch.now)) := by
  rw [Connection.read]
  split
  · -- a frame that is dispatched counts as a sign of life now
    rename_i frame rest _
    refine ⟨h.timeout_eq, fun _ => ?_⟩
    show watch.now ≤ max watch.heard (watch.now + watch.connection.config.keepaliveTimeout)
    exact Nat.le_trans (Nat.le_add_right _ _) (Nat.le_max_right _ _)
  · exact ⟨h.timeout_eq, fun _ => trivial⟩
  · refine ⟨h.timeout_eq, fun hExpecting => ⟨?_, Timer.le_firingMoment_of_le ?_⟩⟩
    · exact Nat.add_le_add_right (hPatient hExpecting) _
    · exact Nat.le_add_right _ _

theorem proceed (h : OnTime watch) : OnTime (watch.step .proceed) := by
  rw [step, Connection.proceed]
  cases hStage : watch.connection.stage with
  | opening =>
    simp only [Bool.false_eq_true, if_false, Connection.register]
    split
    · refine ⟨h.timeout_eq, fun hExpecting => ?_⟩
      have hPatient := h.patient hExpecting
      rw [IsPatient, hStage] at hPatient
      exact hPatient
    · exact ⟨h.timeout_eq, fun _ => trivial⟩
  | reading =>
    simp only [Bool.false_eq_true, if_false]
    refine h.of_read fun hExpecting => ?_
    have hPatient := h.patient hExpecting
    rw [IsPatient, hStage] at hPatient
    exact hPatient
  | dispatched frame since =>
    refine ⟨h.timeout_eq, fun hExpecting => ?_⟩
    have hPatient := h.patient hExpecting
    rw [IsPatient, hStage] at hPatient
    exact hPatient
  | waiting pollEnd => exact ⟨h.timeout_eq, h.patient⟩
  | ended state => exact ⟨h.timeout_eq, h.patient⟩

/-- Bytes that arrive begin a new read. -/
theorem arrive (h : OnTime watch) (bytes : Bytes) : OnTime (watch.step (.arrive bytes)) := by
  rw [step]
  cases hStage : watch.connection.stage with
  | waiting pollEnd =>
    simp only [Connection.deadline?, hStage, Connection.receive]
    exact ⟨h.timeout_eq, fun _ => Nat.le_max_left _ _⟩
  | opening | reading | dispatched frame since | ended state =>
    simp only [Connection.deadline?, hStage]
    exact h

/-- A read that was given up is begun again only if the keepalive has not expired. -/
theorem fire (h : OnTime watch) : OnTime (watch.step .fire) := by
  rw [step, Connection.receive]
  cases hStage : watch.connection.stage with
  | waiting pollEnd =>
    simp only
    split
    · split
      · exact ⟨h.timeout_eq, fun _ => trivial⟩
      · rename_i hAlive
        refine ⟨h.timeout_eq, fun hExpecting => ?_⟩
        have hEarly : ¬watch.connection.config.keepaliveTimeout ≤
            watch.now - watch.connection.monitor.lastReceived := by
          intro hLate
          refine hAlive ?_
          rw [Keepalive.Monitor.isExpired, h.timeout_eq]
          exact Bool.and_eq_true_iff.2 ⟨hExpecting, decide_eq_true hLate⟩
        have hNow := Nat.sub_le_iff_le_add'.1 (Nat.le_of_lt (Nat.lt_of_not_le hEarly))
        exact Nat.le_trans hNow (Nat.le_max_right _ _)
    · exact ⟨h.timeout_eq, h.patient⟩
  | opening | reading | dispatched frame since | ended state => exact ⟨h.timeout_eq, h.patient⟩

/-- Time passes up to the moment at which the timer goes off. -/
theorem pass (h : OnTime watch) (span : Duration) : OnTime (watch.step (.pass span)) := by
  rw [step]
  cases hStage : watch.connection.stage with
  | waiting pollEnd =>
    simp only [Connection.deadline?, hStage]
    split
    · rename_i hSpan
      refine ⟨h.timeout_eq, fun hExpecting => ?_⟩
      have hPatient := h.patient hExpecting
      rw [IsPatient, hStage] at hPatient ⊢
      exact ⟨hPatient.1, hSpan⟩
    · exact h
  | opening | reading | dispatched frame since | ended state =>
    simp only [Connection.deadline?, hStage]
    exact h

theorem run (h : OnTime watch) (events : List Event) : OnTime (watch.run events) := by
  induction events generalizing watch with
  | nil => exact h
  | cons event events ih =>
    cases event with
    | proceed => exact ih h.proceed
    | arrive bytes => exact ih (h.arrive bytes)
    | fire => exact ih h.fire
    | pass span => exact ih (h.pass span)

theorem now_le (h : OnTime watch) (hExpecting : watch.connection.monitor.expecting = true)
    (hOpen : watch.connection.isEnded = false) :
    watch.now ≤
      Timer.firingMoment (watch.lastRead + watch.connection.config.readPollTimeout) := by
  have hPatient := h.patient hExpecting
  rw [IsPatient] at hPatient
  have hRunning : watch.now ≤ watch.lastRead → watch.now ≤
      Timer.firingMoment (watch.lastRead + watch.connection.config.readPollTimeout) :=
    fun hNow => Timer.le_firingMoment_of_le (Nat.le_add_right_of_le hNow)
  cases hStage : watch.connection.stage with
  | opening | reading | dispatched frame since =>
    rw [hStage] at hPatient
    exact hRunning hPatient
  | waiting pollEnd =>
    rw [hStage] at hPatient
    exact Nat.le_trans hPatient.2 (Timer.firingMoment_mono hPatient.1)
  | ended state =>
    rw [Connection.isEnded, hStage] at hOpen
    cases hOpen

end OnTime

/-- **A connection that expects keepalives is closed in time.** It is open no longer than one read
beyond the expiry of its keepalive, or beyond the last bytes that came if those came later. -/
theorem closed_in_time (node : NodeId) (name : String) (fresh : LinkId) (config : Config)
    (announces : Bool) (leftover : Bytes) (begin : Moment) (events : List Event) :
    let watch := run
      ⟨.start node name fresh config announces leftover begin, begin, begin, []⟩ events
    let expiry := watch.connection.monitor.lastReceived + watch.connection.config.keepaliveTimeout
    watch.connection.monitor.expecting = true → watch.connection.isEnded = false →
      watch.now ≤ Timer.firingMoment
          (max watch.heard expiry + watch.connection.config.readPollTimeout) ∧
        (watch.heard ≤ expiry → watch.now <
          expiry + watch.connection.config.readPollTimeout + Timer.resolution) := by
  intro watch expiry hExpecting hOpen
  have hNow : watch.now ≤ Timer.firingMoment
      (max watch.heard expiry + watch.connection.config.readPollTimeout) :=
    ((OnTime.start node name fresh config announces leftover begin).run events).now_le hExpecting
      hOpen
  refine ⟨hNow, fun hHeard => ?_⟩
  rw [Nat.max_eq_right hHeard] at hNow
  exact Nat.lt_of_le_of_lt hNow (Timer.firingMoment_lt _)

/-- A connection of which a read was given up four and a half seconds after a keepalive, and which
reads again. -/
theorem closed_in_time_after_keepalive :
    let leftover := (Frame.keepalive.encode 0).toOption.getD []
    let events : List Event :=
      [.proceed, .proceed, .proceed, .proceed] ++
        (List.replicate 9 [.pass (Duration.milliseconds 500), .fire, .proceed]).flatten
    let watch := run ⟨.start 0 "desk" 0 {} false leftover 0, 0, 0, []⟩ events
    watch.now = Duration.milliseconds 4500 ∧ watch.connection.isEnded = false ∧
      watch.now < Duration.milliseconds 5500 + Timer.resolution := by
  intro leftover events watch
  have hExpecting : watch.connection.monitor.expecting = true := by
    decide +kernel
  have hOpen : watch.connection.isEnded = false := by
    decide +kernel
  have hExpiry : watch.connection.monitor.lastReceived +
      watch.connection.config.keepaliveTimeout = Duration.milliseconds 5000 ∧
      watch.connection.config.readPollTimeout = Duration.milliseconds 500 ∧
      watch.heard = 0 := by
    decide +kernel
  have hNow := (closed_in_time 0 "desk" 0 {} false leftover 0 events hExpecting hOpen).2
  refine ⟨by decide +kernel, hOpen, ?_⟩
  have hLate := hNow (by rw [hExpiry.1, hExpiry.2.2]; decide)
  rw [hExpiry.1, hExpiry.2.1] at hLate
  exact hLate

/-! ## Slow frames -/

/-- Bytes that come one by one, each at the end of the read that the one before has begun. -/
def trickle (pause : Duration) (bytes : Bytes) : List Event :=
  bytes.flatMap fun byte => [.pass pause, .arrive [byte], .proceed]

/-- A connection that has just begun to read and has nothing but the given bytes. -/
structure Reads (watch : Watch) (buffer : Bytes) : Prop where
  buffer_eq : watch.connection.buffer = buffer
  stage_eq : watch.connection.stage =
    .waiting (watch.now + watch.connection.config.readPollTimeout)

/-- What two watches have in common between which no frame was decoded. -/
structure Silent (watch watch' : Watch) : Prop where
  monitor_eq : watch'.connection.monitor = watch.connection.monitor
  config_eq : watch'.connection.config = watch.connection.config

variable {watch : Watch}

theorem Reads.isEnded {buffer : Bytes} (h : watch.Reads buffer) :
    watch.connection.isEnded = false := by
  rw [Connection.isEnded, h.stage_eq]

/-- A byte that completes no frame begins a new read, whatever the time is. -/
theorem Reads.trickle_one {buffer : Bytes} (h : watch.Reads buffer) (byte : UInt8)
    (hShort : ∃ missing, (Frame.decoder watch.connection.config.maxPayloadLength).decode
      (buffer ++ [byte]) = .incomplete missing) :
    let pause := watch.connection.config.readPollTimeout
    let next := watch.run [.pass pause, .arrive [byte], .proceed]
    next.Reads (buffer ++ [byte]) ∧ next.now = watch.now + pause ∧ watch.Silent next := by
  intro pause next
  obtain ⟨missing, hMissing⟩ := hShort
  have hPass : watch.step (.pass pause) = { watch with now := watch.now + pause } := by
    rw [step, Connection.deadline?, h.stage_eq]
    exact if_pos (Timer.le_firingMoment _)
  have hNext : next = (({ watch with now := watch.now + pause } : Watch).step
      (.arrive [byte])).step .proceed := by
    rw [← hPass]
    rfl
  simp only [step, Connection.deadline?, h.stage_eq, Connection.receive, act, Connection.proceed,
    Bool.false_eq_true, if_false, Connection.read, h.buffer_eq, hMissing] at hNext
  rw [hNext]
  exact ⟨⟨rfl, rfl⟩, rfl, ⟨rfl, rfl⟩⟩

theorem Reads.trickle {buffer : Bytes} (h : watch.Reads buffer) (bytes : Bytes)
    (hShort : ∀ front, front <+: buffer ++ bytes → ∃ missing,
      (Frame.decoder watch.connection.config.maxPayloadLength).decode front =
        .incomplete missing) :
    let pause := watch.connection.config.readPollTimeout
    let last := watch.run (Watch.trickle pause bytes)
    last.Reads (buffer ++ bytes) ∧ last.now = watch.now + bytes.length * pause ∧
      watch.Silent last := by
  induction bytes generalizing watch buffer with
  | nil =>
    intro pause last
    rw [List.append_nil]
    exact ⟨h, (Nat.add_eq_left.2 (Nat.zero_mul _)).symm, ⟨rfl, rfl⟩⟩
  | cons byte bytes ih =>
    intro pause last
    have hSplit : buffer ++ byte :: bytes = buffer ++ [byte] ++ bytes := by
      simp
    rw [hSplit] at hShort
    obtain ⟨hNext, hNow, hSilent⟩ := h.trickle_one byte (hShort _ (List.prefix_append _ _))
    rw [← hSilent.config_eq] at hShort
    obtain ⟨hLast, hLastNow, hLastSilent⟩ := ih hNext hShort
    rw [hSilent.config_eq] at hLast hLastNow hLastSilent
    have hRun : last = (watch.run [.pass pause, .arrive [byte], .proceed]).run
        (Watch.trickle pause bytes) := by
      rw [← run_append]
      rfl
    rw [hRun, hSplit]
    refine ⟨hLast, ?_, ⟨?_, ?_⟩⟩
    · rw [hLastNow, hNow, List.length_cons, Nat.add_mul, Nat.one_mul, Nat.add_right_comm,
        Nat.add_assoc]
    · rw [hLastSilent.monitor_eq, hSilent.monitor_eq]
    · rw [hLastSilent.config_eq, hSilent.config_eq]

/-- A connection that was sent a keepalive behind the header expects keepalives, and begins to read
with an empty buffer. -/
theorem reads_after_keepalive (node : NodeId) {name : String} (fresh : LinkId) {config : Config}
    (announces : Bool) {leftover : Bytes} {base : UInt64} (begin : Moment)
    (hName : Path.isLinkName name = true) (hLimit : 2 ≤ config.maxPayloadLength)
    (hLeftover : Frame.keepalive.encode base = .ok leftover) :
    let watch := run ⟨.start node name fresh config announces leftover begin, begin, begin, []⟩
      [.proceed, .proceed, .proceed, .proceed]
    watch.Reads [] ∧ watch.now = begin ∧ watch.connection.config = config ∧
      watch.connection.monitor = ⟨config.keepaliveTimeout, true, begin⟩ := by
  have hItem : (Frame.decoder config.maxPayloadLength).decode leftover =
      .item Frame.keepalive [] := by
    have hDecode := Frame.decode_of_encode hLimit hLeftover []
    rwa [List.append_nil] at hDecode
  have hKeepalive : Frame.keepalive.isKeepalive = true := by
    decide +kernel
  intro watch
  simp only [watch, run, List.foldl_cons, List.foldl_nil, step, act, Connection.start,
    Connection.proceed, Bool.false_eq_true, if_false, Connection.register, hName, if_true,
    Connection.read, hItem, Connection.dispatch, hKeepalive, Frame.decode_nil,
    Keepalive.Monitor.receive, Keepalive.Monitor.start, Bool.or_true]
  exact ⟨⟨rfl, rfl⟩, trivial, trivial, trivial⟩

/-- **A slow frame outlasts the keepalive.** A frame that comes byte by byte keeps a connection
open, one read for each of its bytes but the last, however long ago the last frame was. -/
theorem outlasted_by_slow_frame (node : NodeId) (name : String) (fresh : LinkId) (config : Config)
    (announces : Bool) {leftover bytes : Bytes} (frame : Frame) {base base' : UInt64}
    (begin : Moment) (hName : Path.isLinkName name = true) (hLimit : 2 ≤ config.maxPayloadLength)
    (hLeftover : Frame.keepalive.encode base = .ok leftover)
    (hFrame : frame.payload.length ≤ config.maxPayloadLength)
    (hBytes : frame.encode base' = .ok bytes) :
    let watch := run ⟨.start node name fresh config announces leftover begin, begin, begin, []⟩
      ([.proceed, .proceed, .proceed, .proceed] ++
        trickle config.readPollTimeout bytes.dropLast)
    watch.connection.monitor = ⟨config.keepaliveTimeout, true, begin⟩ ∧
      watch.connection.config = config ∧ watch.connection.isEnded = false ∧
      watch.now = begin + (bytes.length - 1) * config.readPollTimeout := by
  intro watch
  obtain ⟨hReads, hNow, hConfig, hMonitor⟩ :=
    reads_after_keepalive node fresh announces begin hName hLimit hLeftover
  have hShort : ∀ front, front <+: [] ++ bytes.dropLast → ∃ missing,
      (Frame.decoder config.maxPayloadLength).decode front = .incomplete missing := by
    intro front hFront
    refine Frame.decode_of_prefix hFrame hBytes (hFront.trans (List.dropLast_prefix bytes)) ?_
    rintro rfl
    have hLength := List.IsPrefix.length_le hFront
    rw [List.nil_append, List.length_dropLast] at hLength
    have hEmpty : front = [] := List.length_eq_zero_iff.1 (by omega)
    -- no frame has an empty encoding
    have hItem := Frame.decode_of_encode hFrame hBytes []
    rw [hEmpty, List.append_nil, Frame.decode_nil] at hItem
    cases hItem
  rw [← hConfig] at hShort
  obtain ⟨hLast, hLastNow, hSilent⟩ := hReads.trickle bytes.dropLast hShort
  rw [hConfig] at hLast hLastNow hSilent
  have hRun : watch = (run
      ⟨.start node name fresh config announces leftover begin, begin, begin, []⟩
      [.proceed, .proceed, .proceed, .proceed]).run
        (trickle config.readPollTimeout bytes.dropLast) :=
    run_append _ _ _
  rw [hRun]
  refine ⟨hSilent.monitor_eq.trans hMonitor, hSilent.config_eq.trans hConfig, hLast.isEnded, ?_⟩
  rw [hLastNow, hNow, List.length_dropLast]

/-- A connection that expects keepalives is not always closed within one read after the expiry:
under the default configuration, a frame of forty bytes is enough. -/
theorem not_always_closed_after_timeout :
    ¬∀ (node : NodeId) (name : String) (fresh : LinkId) (config : Config) (announces : Bool)
      (leftover : Bytes) (begin : Moment) (events : List Event), config.check = .ok () →
      let watch := run
        ⟨.start node name fresh config announces leftover begin, begin, begin, []⟩ events
      watch.connection.monitor.expecting = true → watch.connection.isEnded = false →
        watch.now ≤ watch.connection.monitor.lastReceived + config.keepaliveTimeout +
          config.readPollTimeout := by
  intro h
  obtain ⟨leftover, hLeftover⟩ : ∃ bytes, Frame.keepalive.encode 0 = .ok bytes :=
    Frame.encode_isOk_iff.2 Frame.isEncodable_keepalive
  let frame : Frame := ⟨some "lamp", none, List.replicate 12 0⟩
  obtain ⟨bytes, hBytes, hLength⟩ : ∃ bytes, frame.encode 1 = .ok bytes ∧ bytes.length = 40 :=
    ⟨_, rfl, by decide +kernel⟩
  obtain ⟨hMonitor, _, hOpen, hNow⟩ :=
    outlasted_by_slow_frame 0 "desk" 0 {} false frame 0 (by decide) (by decide) hLeftover
      (by decide) hBytes
  have hLate := h 0 "desk" 0 {} false leftover 0 _ rfl (by rw [hMonitor]) hOpen
  rw [hMonitor, hNow, hLength] at hLate
  revert hLate
  decide

end Watch

end Transport

end RobotBus
