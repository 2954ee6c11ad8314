import RobotBus.Proofs.Transport.Moves

/-!
# The course of a step

A step of a client begins with a look at its stop flag or with an input. All that follows from that
is a list of effects, and others can act between any two of them. A `Standing` is what others can
see of the client at such a moment: the state that it has published last, and the link that it has
registered. A `Course` leads through the effects of a step from one standing to another.

The state is published from the loop of the client, from its handshake and from its connection. It
tells nevertheless at which stage the client is (`Client.Stands`), and every step is a course to
where the client stands after it (`Client.reaches_proceed`, `Client.reaches_receive`). A link is
registered just before the client says that it is active, and removed before it says anything else:
`Course.promises`.
-/

namespace RobotBus.Transport

/-! ## States that follow each other -/

/-- The states of a client that goes on. -/
inductive State.Leads : State → State → Prop
  | retry : Leads .connecting .connecting
  | greet : Leads .connecting .handshaking
  | decline : Leads .handshaking .connecting
  | activate : Leads .handshaking .active
  | close : Leads .active .closing
  | fail : Leads .active .failed
  | reconnect {state : State} : state.isTerminal = true → Leads state .connecting

/-- What follows the state that was published last, for a client that may have been released, that
is, stopped or dropped. -/
inductive State.Follows (released : Bool) : Option State → State → Prop
  | begin : Follows released none .connecting
  | lead {earlier later : State} : earlier.Leads later → Follows released (some earlier) later
  | close (said? : Option State) : released = true → Follows released said? .closing

theorem State.Follows.release {released : Bool} {said? : Option State} {next : State}
    (h : State.Follows released said? next) : State.Follows true said? next := by
  cases h with
  | begin => exact .begin
  | lead hLeads => exact .lead hLeads
  | close => exact .close said? rfl

theorem State.follows_connecting (released : Bool) {said? : Option State}
    (h : said? ≠ some .active) : State.Follows released said? .connecting := by
  cases said? with
  | none => exact .begin
  | some state =>
    cases state with
    | connecting => exact .lead .retry
    | handshaking => exact .lead .decline
    | active => exact absurd rfl h
    | closing => exact .lead (.reconnect rfl)
    | failed => exact .lead (.reconnect rfl)

/-! ## Courses -/

/-- What others see of a client between two of its effects. -/
structure Standing where
  said? : Option State
  landing? : Option Landing
deriving DecidableEq, Repr

/-- A link is registered only if the client has said that it is active. -/
def Standing.IsSettled (standing : Standing) : Prop :=
  standing.landing? ≠ none → standing.said? = some .active

/-- No link is registered, and the client has not said that one is. -/
def Standing.IsAway (standing : Standing) : Prop :=
  standing.said? ≠ some .active ∧ standing.landing? = none

/-- Whether an effect leaves a client where it stands. -/
def Effect.IsMute : Effect → Prop
  | .publish _ => False
  | .perform operation => IsTransmission operation
  | _ => True

/-- The effects of a step from one standing to another. At most one of them publishes a state, and
what is behind it is mute. -/
inductive Course (released : Bool) : Standing → List Effect → Standing → Prop
  | done (standing : Standing) : Course released standing [] standing
  | mute {before after : Standing} {effect : Effect} {rest : List Effect} :
    effect.IsMute → Course released before rest after →
    Course released before (effect :: rest) after
  | say {said? : Option State} {next : State} {rest : List Effect} :
    State.Follows released said? next → next ≠ .active → (∀ effect ∈ rest, effect.IsMute) →
    Course released ⟨said?, none⟩ (.publish next :: rest) ⟨some next, none⟩
  | land (landing : Landing) {rest : List Effect} {after : Standing} :
    Course released ⟨some .handshaking, some landing⟩ rest after →
    Course released ⟨some .handshaking, none⟩
      (.perform (.replace landing.node landing.name landing.link) :: rest) after
  | activate (landing : Landing) {rest : List Effect} : (∀ effect ∈ rest, effect.IsMute) →
    Course released ⟨some .handshaking, some landing⟩ (.publish .active :: rest)
      ⟨some .active, some landing⟩
  | leave (landing : Landing) {rest : List Effect} {after : Standing} :
    Course released ⟨some .active, none⟩ rest after →
    Course released ⟨some .active, some landing⟩
      (.perform (.removeIf landing.node landing.name landing.link) :: rest) after

/-- The effects lead to a standing of the given kind. -/
def Reaches (released : Bool) (before : Standing) (effects : List Effect)
    (stands : Standing → Prop) : Prop :=
  ∃ after, Course released before effects after ∧ stands after

theorem isMute_notes (notices : List Notice) :
    ∀ effect ∈ notices.map Effect.note, effect.IsMute := by
  intro effect hEffect
  obtain ⟨notice, _, rfl⟩ := List.mem_map.1 hEffect
  exact True.intro

namespace Course

variable {released : Bool} {before after : Standing} {effects : List Effect}

theorem of_isMute (released : Bool) (standing : Standing)
    (h : ∀ effect ∈ effects, effect.IsMute) : Course released standing effects standing := by
  induction effects with
  | nil => exact .done standing
  | cons effect effects ih =>
    rw [List.forall_mem_cons] at h
    exact .mute h.1 (ih h.2)

/-- What may happen may happen also after a release. -/
theorem release (h : Course released before effects after) : Course true before effects after := by
  induction h with
  | done standing => exact .done standing
  | mute hMute _ ih => exact .mute hMute ih
  | say hFollows hNext hRest => exact .say hFollows.release hNext hRest
  | land landing _ ih => exact .land landing ih
  | activate landing hRest => exact .activate landing hRest
  | leave landing _ ih => exact .leave landing ih

end Course

theorem Reaches.nothing {released : Bool} {before : Standing} {stands : Standing → Prop}
    (h : stands before) : Reaches released before [] stands :=
  ⟨before, .done before, h⟩

theorem Reaches.notes {released : Bool} {before : Standing} {stands : Standing → Prop}
    (notices : List Notice) (h : stands before) :
    Reaches released before (notices.map .note) stands :=
  ⟨before, .of_isMute released before (isMute_notes notices), h⟩

/-! ## Connections -/

namespace Connection

variable {connection : Connection} {standing : Standing} {stopped released : Bool}

/-- Where the client of a connection stands. -/
def Stands (connection : Connection) (standing : Standing) : Prop :=
  match connection.stage with
  | .opening => standing = ⟨some .handshaking, none⟩ ∧ Path.isLinkName connection.name = true
  | .reading | .dispatched .. | .waiting _ => standing = ⟨some .active, some connection.landing⟩
  | .ended last => standing = ⟨some last, none⟩ ∧ last.isTerminal = true

theorem Stands.landing? (h : connection.Stands standing) :
    standing.landing? = connection.landing? := by
  rw [Stands] at h
  rw [Connection.landing?]
  cases hStage : connection.stage with
  | opening | ended last =>
    rw [hStage] at h
    rw [h.1]
  | reading | dispatched frame since | waiting pollEnd =>
    rw [hStage] at h
    rw [h]

theorem Stands.isSettled (h : connection.Stands standing) : standing.IsSettled := by
  rw [Stands] at h
  cases hStage : connection.stage with
  | opening | ended last =>
    rw [hStage] at h
    rw [h.1]
    exact fun hLanding => absurd rfl hLanding
  | reading | dispatched frame since | waiting pollEnd =>
    rw [hStage] at h
    rw [h]
    exact fun _ => rfl

theorem Stands.isAway (h : connection.Stands standing) (hEnded : connection.isEnded = true) :
    standing.IsAway := by
  rw [Stands] at h
  rw [isEnded] at hEnded
  split at hEnded
  · rename_i last hStage
    rw [hStage] at h
    obtain ⟨rfl, hTerminal⟩ := h
    refine ⟨?_, rfl⟩
    rintro ⟨⟩
    cases hTerminal
  · cases hEnded

theorem reaches_finish (connection : Connection) (notice : Notice) {last : State}
    (h : last.isTerminal = true) :
    Reaches released ⟨some .active, some connection.landing⟩ (connection.finish last notice).2
      (connection.finish last notice).1.Stands := by
  have hLast : State.active.Leads last ∧ last ≠ .active := by
    cases last with
    | closing => exact ⟨.close, State.noConfusion⟩
    | failed => exact ⟨.fail, State.noConfusion⟩
    | connecting | handshaking | active => cases h
  refine ⟨⟨some last, none⟩, ?_, rfl, h⟩
  refine .mute True.intro (.leave connection.landing (.mute True.intro ?_))
  exact .say (.lead hLast.1) hLast.2 (List.forall_mem_nil _)

theorem reaches_register (hName : Path.isLinkName connection.name = true) :
    Reaches released ⟨some .handshaking, none⟩ connection.register.2
      connection.register.1.Stands := by
  rw [register, if_pos hName]
  refine ⟨⟨some .active, some connection.landing⟩, ?_, rfl⟩
  refine .mute True.intro (.land connection.landing (.activate connection.landing ?_))
  intro effect hEffect
  cases hAnnounces : connection.announces with
  | true =>
    rw [hAnnounces] at hEffect
    rcases List.mem_cons.1 hEffect with rfl | hLast
    · exact True.intro
    · rw [List.mem_singleton.1 hLast]
      exact ⟨_, _, _, rfl⟩
  | false =>
    rw [hAnnounces] at hEffect
    rw [List.mem_singleton.1 hEffect]
    exact True.intro

theorem reaches_read (connection : Connection) (now : Moment) :
    Reaches released ⟨some .active, some connection.landing⟩ (connection.read now).2
      (connection.read now).1.Stands := by
  rw [read]
  split
  · refine ⟨⟨some .active, some connection.landing⟩, .of_isMute _ _ ?_, rfl⟩
    intro effect hEffect
    rw [dispatch, List.mem_append, List.mem_singleton] at hEffect
    rcases hEffect with hNote | rfl
    · exact isMute_notes _ effect hNote
    · exact ⟨_, _, _, rfl⟩
  · exact connection.reaches_finish _ rfl
  · exact .nothing rfl

theorem Stands.opening (h : connection.Stands standing) (hStage : connection.stage = .opening) :
    standing = ⟨some .handshaking, none⟩ ∧ Path.isLinkName connection.name = true := by
  rw [Stands, hStage] at h
  exact h

theorem Stands.active (h : connection.Stands standing)
    (hLanding : connection.landing? = some connection.landing) :
    standing = ⟨some .active, some connection.landing⟩ := by
  have hSaid := h.isSettled (by rw [h.landing?, hLanding]; exact Option.some_ne_none _)
  rw [← hSaid, ← hLanding, ← h.landing?]

theorem reaches_proceed (h : connection.Stands standing) (now : Moment)
    (hReleased : stopped = true → released = true) :
    Reaches released standing (connection.proceed now stopped).2
      (connection.proceed now stopped).1.Stands := by
  have hProceeds := connection.proceeds now stopped
  generalize connection.proceed now stopped = step at hProceeds ⊢
  cases hProceeds with
  | giveUp hStage =>
    obtain ⟨rfl, _⟩ := h.opening hStage
    refine ⟨⟨some .closing, none⟩, .mute True.intro ?_, rfl, rfl⟩
    exact .say (.close _ (hReleased rfl)) State.noConfusion
      (List.forall_mem_singleton.2 True.intro)
  | register hStage =>
    obtain ⟨rfl, hName⟩ := h.opening hStage
    exact reaches_register hName
  | finish hStage =>
    obtain rfl := h.active (by rw [landing?, hStage])
    exact connection.reaches_finish _ rfl
  | read hStage =>
    obtain rfl := h.active (by rw [landing?, hStage])
    exact connection.reaches_read now
  | @goOn _ frame since hStage =>
    obtain rfl := h.active (by rw [landing?, hStage])
    rw [slowness]
    split
    · exact .notes [_] rfl
    · exact .nothing rfl
  | nothing => exact .nothing h

theorem reaches_receive (h : connection.Stands standing) (now : Moment) (input : Input) :
    Reaches released standing (connection.receive now input).2
      (connection.receive now input).1.Stands := by
  have hReceives := connection.receives now input
  generalize connection.receive now input = step at hReceives ⊢
  cases hReceives with
  | finish notice hStage hTerminal =>
    obtain rfl := h.active (by rw [landing?, hStage])
    exact connection.reaches_finish notice hTerminal
  | resume buffer notices hStage =>
    obtain rfl := h.active (by rw [landing?, hStage])
    exact .notes notices rfl
  | nothing => exact .nothing h

end Connection

/-! ## Clients -/

namespace Client

variable {client : Client} {standing : Standing} {stopped released : Bool}

/-- Where a client stands between two steps. -/
def Stands (client : Client) (standing : Standing) : Prop :=
  match client.stage with
  | .resting | .departing | .pausing _ => standing.IsAway
  | .connecting _ => standing = ⟨some .connecting, none⟩
  | .handshaking .. => standing = ⟨some .handshaking, none⟩
  | .connected connection => connection.Stands standing
  | .ended => standing = ⟨some .closing, none⟩

theorem Stands.landing? (h : client.Stands standing) : standing.landing? = client.landing? := by
  rw [Stands] at h
  rw [Client.landing?]
  cases hStage : client.stage with
  | resting | departing | pausing deadline =>
    rw [hStage] at h
    exact h.2
  | connecting deadline | handshaking buffer deadline | ended =>
    rw [hStage] at h
    rw [h]
  | connected connection =>
    rw [hStage] at h
    exact Connection.Stands.landing? h

theorem Stands.isSettled (h : client.Stands standing) : standing.IsSettled := by
  intro hLanding
  rw [Stands] at h
  cases hStage : client.stage with
  | resting | departing | pausing deadline =>
    rw [hStage] at h
    exact absurd h.2 hLanding
  | connecting deadline | handshaking buffer deadline | ended =>
    rw [hStage] at h
    rw [h] at hLanding
    exact absurd rfl hLanding
  | connected connection =>
    rw [hStage] at h
    exact Connection.Stands.isSettled h hLanding

theorem Stands.of_connection? (h : client.Stands standing) {connection : Connection}
    (hConnection : client.connection? = some connection) : connection.Stands standing := by
  rw [Stands] at h
  rw [connection?] at hConnection
  split at hConnection
  · rename_i other hStage
    rw [hStage] at h
    rw [← Option.some.inj hConnection]
    exact h
  · cases hConnection

theorem Stands.connecting (h : client.Stands standing) {deadline : Moment}
    (hStage : client.stage = .connecting deadline) : standing = ⟨some .connecting, none⟩ := by
  rw [Stands, hStage] at h
  exact h

theorem Stands.handshaking (h : client.Stands standing) {buffer : Bytes} {deadline : Moment}
    (hStage : client.stage = .handshaking buffer deadline) :
    standing = ⟨some .handshaking, none⟩ := by
  rw [Stands, hStage] at h
  exact h

/-- A client without a connection has registered nothing. -/
theorem Stands.eq_of_connection? (h : client.Stands standing)
    (hNone : client.connection? = none) : standing = ⟨standing.said?, none⟩ := by
  rw [← landing?_of_connection?_none hNone, ← h.landing?]

theorem reaches_finish (client : Client) (said? : Option State) (h : released = true) :
    Reaches released ⟨said?, none⟩ client.finish.2 client.finish.1.Stands :=
  ⟨⟨some .closing, none⟩,
    .say (.close said? h) State.noConfusion (isMute_notes [.clientStopped]), rfl⟩

theorem reaches_pause (client : Client) (h : standing.IsAway) (now : Moment)
    (hReleased : stopped = true → released = true) :
    Reaches released standing (client.pause now stopped).2
      (client.pause now stopped).1.Stands := by
  cases stopped with
  | true =>
    obtain ⟨said?, landing?⟩ := standing
    obtain ⟨_, rfl⟩ := h
    exact client.reaches_finish said? (hReleased rfl)
  | false => exact .nothing h

theorem reaches_greet (client : Client) (now : Moment) :
    Reaches released ⟨some .connecting, none⟩ (client.greet now).2
      (client.greet now).1.Stands := by
  have hAway : Standing.IsAway ⟨some .handshaking, none⟩ := ⟨by decide, rfl⟩
  rw [greet]
  split
  · refine ⟨⟨some .handshaking, none⟩, .say (.lead .greet) State.noConfusion ?_, rfl⟩
    exact List.forall_mem_singleton.2 True.intro
  · -- the own header can not be sent
    refine ⟨⟨some .handshaking, none⟩, .say (.lead .greet) State.noConfusion ?_, hAway⟩
    exact List.forall_mem_cons.2 ⟨True.intro, List.forall_mem_singleton.2 True.intro⟩

theorem reaches_decline (client : Client) (notice : Notice) :
    Reaches released ⟨some .handshaking, none⟩ (client.decline notice).2
      (client.decline notice).1.Stands := by
  refine ⟨⟨some .handshaking, none⟩, .of_isMute _ _ ?_, by decide, rfl⟩
  exact List.forall_mem_cons.2 ⟨True.intro, List.forall_mem_singleton.2 True.intro⟩

theorem reaches_readHeader (hName : Path.isLinkName client.name = true) (buffer : Bytes)
    (deadline now : Moment) (fresh : LinkId) :
    Reaches released ⟨some .handshaking, none⟩ (client.readHeader buffer deadline now fresh).2
      (client.readHeader buffer deadline now fresh).1.Stands := by
  rw [readHeader]
  split
  · exact .notes [_] ⟨rfl, hName⟩
  · exact client.reaches_decline _
  · exact .nothing rfl

/-- **What a client does by itself leads it to where it stands then.** -/
theorem reaches_proceed (h : client.Stands standing) (now : Moment)
    (hReleased : stopped = true → released = true) :
    Reaches released standing (client.proceed now stopped).2
      (client.proceed now stopped).1.Stands := by
  have hProceeds := client.proceeds now stopped
  generalize client.proceed now stopped = step at hProceeds ⊢
  cases hProceeds with
  | finish hStage =>
    rw [h.eq_of_connection? (by rw [connection?, hStage])]
    exact client.reaches_finish _ (hReleased rfl)
  | connect hStage =>
    have hAway : standing.IsAway := by
      rw [Stands, hStage] at h
      exact h
    rw [h.eq_of_connection? (by rw [connection?, hStage])]
    refine ⟨⟨some .connecting, none⟩, .say ?_ State.noConfusion ?_, rfl⟩
    · exact State.follows_connecting released hAway.1
    · exact List.forall_mem_singleton.2 True.intro
  | leave _ hConnection hEnded =>
    exact client.reaches_pause ((h.of_connection? hConnection).isAway hEnded) now hReleased
  | within _ hConnection =>
    exact Connection.reaches_proceed (h.of_connection? hConnection) now hReleased
  | pause _ hStage =>
    rw [Stands, hStage] at h
    exact client.reaches_pause h now hReleased
  | nothing => exact .nothing h

/-- **So does what it does with an input.** -/
theorem reaches_receive (h : client.Stands standing) (hName : Path.isLinkName client.name = true)
    (now : Moment) (fresh : LinkId) {input : Input} (hStop : input = .stop → released = true) :
    Reaches released standing (client.receive now fresh input).2
      (client.receive now fresh input).1.Stands := by
  have hReceives := client.receives now fresh input
  generalize client.receive now fresh input = step at hReceives ⊢
  cases hReceives with
  | finish _ hNone =>
    rw [h.eq_of_connection? hNone]
    exact client.reaches_finish _ (hStop rfl)
  | hangUp hStage =>
    obtain rfl := h.handshaking hStage
    obtain ⟨after, hCourse, hAfter⟩ := client.reaches_finish (some .handshaking) (hStop rfl)
    exact ⟨after, .mute True.intro hCourse, hAfter⟩
  | greet hStage =>
    obtain rfl := h.connecting hStage
    exact client.reaches_greet now
  | giveUp _ notice hStage =>
    obtain rfl := h.connecting hStage
    exact .notes [notice] ⟨by decide, rfl⟩
  | decline _ notice hStage =>
    obtain rfl := h.handshaking hStage
    exact client.reaches_decline notice
  | readHeader bytes hStage =>
    obtain rfl := h.handshaking hStage
    exact reaches_readHeader hName _ _ now fresh
  | rest hStage =>
    rw [Stands, hStage] at h
    exact .nothing h
  | within _ hConnection =>
    exact Connection.reaches_receive (h.of_connection? hConnection) now input
  | nothing => exact .nothing h

/-! ### Clients that were stopped -/

end Client

end RobotBus.Transport
