import RobotBus.Proofs.Transport.Station

/-!
# Tracing

With tracing, a connection has a second link in front of its queue, and shows all its frames in the
log. `Station.watched` makes the same station with tracing out of one without. Each step of the one
is a step of the other (`Watches.step`), and so are whole runs: the link that nodes know is
registered, denied and removed in both of them, and the link behind it stays out of reach. So nobody
can tell from what a connection does whether it is traced (`tracing_is_transparent`). Only the log
has further lines, and these are lines of tracing.
-/

namespace RobotBus

/-- The lines that are written only if frames are traced. -/
def Notice.isTrace : Notice → Bool
  | .frameSent .. | .frameReceived .. | .keepaliveSent .. | .keepaliveReceived .. => true
  | .slowDispatch .. => true
  | _ => false

namespace Transport

open Wire (Frame Bases)

/-! ## Logs -/

/-- The second log is the first one with lines of tracing in between. -/
structure Interlined (log log' : List Notice) : Prop where
  sublist : log.Sublist log'
  others : log.filter (!·.isTrace) = log'.filter (!·.isTrace)

/-- What a log shows at a level. -/
def shown (level : Level) (log : List Notice) : List Notice :=
  log.filter fun notice => notice.level.detail ≤ level.detail

namespace Interlined

variable {log log' front front' : List Notice}

theorem refl (log : List Notice) : Interlined log log :=
  ⟨.refl log, rfl⟩

theorem append (h : Interlined front front') (h' : Interlined log log') :
    Interlined (front ++ log) (front' ++ log') where
  sublist := h.sublist.append h'.sublist
  others := by
    rw [List.filter_append, List.filter_append, h.others, h'.others]

theorem reverse (h : Interlined log log') : Interlined log.reverse log'.reverse where
  sublist := h.sublist.reverse
  others := by
    rw [List.filter_reverse, List.filter_reverse, h.others]

theorem trace {notice : Notice} (hTrace : notice.isTrace = true) : Interlined [] [notice] where
  sublist := List.nil_sublist _
  others := by
    rw [List.filter_cons_of_neg (by rw [hTrace]; decide)]

theorem shown (h : Interlined log log') (level : Level) :
    Interlined (shown level log) (shown level log') where
  sublist := h.sublist.filter _
  others := by
    have hSwap (log : List Notice) : (Transport.shown level log).filter (!·.isTrace) =
        Transport.shown level (log.filter (!·.isTrace)) := by
      simp only [Transport.shown, List.filter_filter, Bool.and_comm]
    rw [hSwap, hSwap, h.others]

end Interlined

/-! ## Tracing -/

/-- An endpoint with or without tracing. Nodes know its connection by the same link in both cases;
with tracing there is another link behind it. -/
def Endpoint.tracing (far : Endpoint) (traced : Bool) : Endpoint :=
  { far with
    fresh := if traced then far.fresh else far.fresh + 1
    config := { far.config with traceFrames := traced } }

theorem Endpoint.link_tracing (far : Endpoint) (traced : Bool) :
    (far.tracing traced).ends.link = far.fresh + 1 := by
  cases traced with
  | true => rfl
  | false => rfl

/-- The same connection with tracing, and a link for its queue. -/
def Connection.watched (queue : LinkId) (connection : Connection) : Connection :=
  { connection with
    ends := ⟨queue, connection.ends.link⟩
    config := { connection.config with traceFrames := true } }

def Writer.watched (writer : Writer) : Writer :=
  { writer with traced := true }

def Line.watched (queue : LinkId) (line : Line) : Line :=
  { line with ends := ⟨queue, line.ends.link⟩ }

/-- The same nodes and links with tracing, and with another log. -/
def Desk.watched {τ : Type} (queue : LinkId) (log : List Notice) (net : Network (Desk τ)) :
    Network (Desk τ) :=
  { net with log, links := ⟨net.links.line.map (Line.watched queue), net.links.others⟩ }

/-- The same station with tracing, and with another log. -/
def Station.watched {τ : Type} (queue : LinkId) (log : List Notice) (s : Station τ) : Station τ :=
  { s with
    connection := s.connection.watched queue
    net := Desk.watched queue log s.net
    writer := s.writer.map Writer.watched }

/-! ### Effects -/

/-- What a connection without tracing does, and what the same one does with it: it makes a link for
its queue, and there may be lines of tracing in between. -/
inductive Shows (queue link : LinkId) : List Effect → List Effect → Prop
  | nil : Shows queue link [] []
  | note (notice : Notice) {effects effects' : List Effect} : Shows queue link effects effects' →
    Shows queue link (.note notice :: effects) (.note notice :: effects')
  | publish (state : State) {effects effects' : List Effect} : Shows queue link effects effects' →
    Shows queue link (.publish state :: effects) (.publish state :: effects')
  | close {effects effects' : List Effect} : Shows queue link effects effects' →
    Shows queue link (.close :: effects) (.close :: effects')
  | perform {operation : Operation} {effects effects' : List Effect} :
    (Task.perform operation).bound? ≠ some queue → Shows queue link effects effects' →
    Shows queue link (.perform operation :: effects) (.perform operation :: effects')
  | openLink {ends : Ends} (name : String) {config : Config} {effects effects' : List Effect} :
    ends = ⟨link, link⟩ → config.traceFrames = false → Shows queue link effects effects' →
    Shows queue link (.openLink ends name config :: effects)
      (.openLink ⟨queue, link⟩ name { config with traceFrames := true } :: effects')
  | trace {notice : Notice} {effects effects' : List Effect} : notice.isTrace = true →
    Shows queue link effects effects' → Shows queue link effects (.note notice :: effects')

namespace Shows

variable {queue link : LinkId} {effects effects' more more' : List Effect}

theorem append (h : Shows queue link effects effects') (h' : Shows queue link more more') :
    Shows queue link (effects ++ more) (effects' ++ more') := by
  induction h with
  | nil => exact h'
  | note notice _ ih => exact .note notice ih
  | publish state _ ih => exact .publish state ih
  | close _ ih => exact .close ih
  | perform hOperation _ ih => exact .perform hOperation ih
  | openLink name hEnds hConfig _ ih => exact .openLink name hEnds hConfig ih
  | trace hTrace _ ih => exact .trace hTrace ih

theorem notes (notices : List Notice) :
    Shows queue link (notices.map .note) (notices.map .note) := by
  induction notices with
  | nil => exact .nil
  | cons notice notices ih => exact .note notice ih

end Shows

namespace Connection

variable {connection : Connection} {queue : LinkId}

/-- A connection without tracing. Its link is not the given one. -/
structure Unwatched (queue : LinkId) (connection : Connection) : Prop where
  untraced : connection.config.traceFrames = false
  direct : connection.ends = ⟨connection.ends.link, connection.ends.link⟩
  apart : connection.ends.link ≠ queue

/-- A step of a connection without tracing, and that of the same one with it. -/
structure Steps (queue : LinkId) (connection : Connection)
    (done done' : Connection × List Effect) : Prop where
  ends_eq : done.1.ends = connection.ends
  config_eq : done.1.config = connection.config
  watched : done'.1 = done.1.watched queue
  shows : Shows queue connection.ends.link done.2 done'.2

theorem finish_watched (connection : Connection) (state : State) (notice : Notice) :
    connection.Steps queue (connection.finish state notice)
      ((connection.watched queue).finish state notice) :=
  ⟨rfl, rfl, rfl,
    .close (.perform (Option.some_ne_none queue).symm (.note _ (.publish _ .nil)))⟩

theorem giveUp_watched (connection : Connection) (state : State) (notice : Notice) :
    connection.Steps queue (connection.giveUp state notice)
      ((connection.watched queue).giveUp state notice) :=
  ⟨rfl, rfl, rfl, .note _ (.publish _ (.close .nil))⟩

theorem register_watched (h : connection.Unwatched queue) :
    connection.Steps queue connection.register (connection.watched queue).register := by
  have hSame : (connection.watched queue).name = connection.name := rfl
  by_cases hName : Path.isLinkName connection.name = true
  · have hAnnounces : Shows queue connection.ends.link
        (if connection.announces then [.perform (announcement connection.node)] else [])
        (if connection.announces then [.perform (announcement connection.node)] else []) := by
      split
      · exact .perform (Option.some_ne_none queue).symm .nil
      · exact .nil
    have hBound : (Task.perform (.replace connection.node connection.name
        connection.ends.link)).bound? ≠ some queue :=
      fun hQueue => h.apart (Option.some.inj hQueue)
    rw [register, register, hSame, if_pos hName, if_pos hName]
    refine ⟨rfl, rfl, rfl, Shows.append ?_ hAnnounces⟩
    exact .openLink _ h.direct h.untraced (.perform hBound (.publish _ (.note _ .nil)))
  · rw [register, register, hSame, if_neg hName, if_neg hName]
    exact giveUp_watched ..

theorem dispatch_watched (h : connection.Unwatched queue) (frame : Frame) (rest : Bytes)
    (now : Moment) :
    connection.Steps queue (connection.dispatch frame rest now)
      ((connection.watched queue).dispatch frame rest now) := by
  have hTrace : Shows queue connection.ends.link ((connection.traceOf frame).map .note)
      (((connection.watched queue).traceOf frame).map .note) := by
    have hTraced : (connection.watched queue).config.traceFrames = true := rfl
    rw [traceOf, traceOf, h.untraced, hTraced]
    cases frame.isKeepalive with
    | true => exact .trace rfl .nil
    | false => exact .trace rfl .nil
  refine ⟨rfl, rfl, rfl, ?_⟩
  rw [dispatch, dispatch, List.map_append, List.map_append]
  exact ((Shows.notes _).append hTrace).append (.perform (Option.some_ne_none queue).symm .nil)

theorem read_watched (h : connection.Unwatched queue) (now : Moment) :
    connection.Steps queue (connection.read now) ((connection.watched queue).read now) := by
  have hLimit : (connection.watched queue).config.maxPayloadLength =
      connection.config.maxPayloadLength := rfl
  have hBuffer : (connection.watched queue).buffer = connection.buffer := rfl
  rw [read, read, hLimit, hBuffer]
  cases (Frame.decoder connection.config.maxPayloadLength).decode connection.buffer with
  | item frame rest => exact dispatch_watched h frame rest now
  | malformed cause => exact finish_watched ..
  | incomplete missing => exact ⟨rfl, rfl, rfl, .nil⟩

theorem slowness_watched (h : connection.Unwatched queue) (frame : Frame)
    (since now : Moment) :
    Shows queue connection.ends.link (connection.slowness frame since now)
      ((connection.watched queue).slowness frame since now) := by
  rw [slowness, slowness, if_neg (by simp [h.untraced])]
  split
  · exact .trace rfl .nil
  · exact .nil

/-- What a connection does by itself. -/
theorem proceed_watched (h : connection.Unwatched queue) (now : Moment) (stopped : Bool) :
    connection.Steps queue (connection.proceed now stopped)
      ((connection.watched queue).proceed now stopped) := by
  have hStage : (connection.watched queue).stage = connection.stage := rfl
  rw [proceed, proceed, hStage]
  cases connection.stage with
  | opening =>
    cases stopped with
    | true => exact giveUp_watched ..
    | false => exact register_watched h
  | reading =>
    cases stopped with
    | true => exact finish_watched ..
    | false => exact read_watched h now
  | dispatched frame since => exact ⟨rfl, rfl, rfl, slowness_watched h frame since now⟩
  | waiting pollEnd => exact ⟨rfl, rfl, rfl, .nil⟩
  | ended state => exact ⟨rfl, rfl, rfl, .nil⟩

/-- What a connection does with an input. -/
theorem receive_watched (connection : Connection) (now : Moment) (input : Input) :
    connection.Steps queue (connection.receive now input)
      ((connection.watched queue).receive now input) := by
  have hStage : (connection.watched queue).stage = connection.stage := rfl
  have hNothing (connection : Connection) :
      connection.Steps queue (connection, []) (connection.watched queue, []) :=
    ⟨rfl, rfl, rfl, .nil⟩
  rw [receive, receive, hStage]
  cases connection.stage with
  | opening | reading | dispatched frame since | ended state => exact hNothing connection
  | waiting pollEnd =>
    cases input with
    | connected | refused cause => exact hNothing connection
    | stop | endOfStream => exact finish_watched ..
    | received bytes => exact ⟨rfl, rfl, rfl, .note _ .nil⟩
    | broken cause regular =>
      cases regular with
      | true => exact finish_watched ..
      | false => exact finish_watched ..
    | time =>
      have hMonitor : (connection.watched queue).monitor = connection.monitor := rfl
      simp only [hMonitor]
      split
      · split
        · exact finish_watched ..
        · exact ⟨rfl, rfl, rfl, .nil⟩
      · exact hNothing connection

end Connection

/-! ### Writers -/

namespace Writer

/-- A batch of a writer without tracing, and that of the same one with it. -/
structure Loads (batch batch' : Writer × SendQueue × List Notice) : Prop where
  untraced : batch.1.traced = false
  watched : batch'.1 = batch.1.watched
  queue_eq : batch'.2.1 = batch.2.1
  notices : Interlined batch.2.2 batch'.2.2

variable {writer : Writer}

theorem takeQueued_watched (h : writer.traced = false) (queue : SendQueue) :
    Loads (writer.takeQueued queue) (writer.watched.takeQueued queue) :=
  ⟨h, rfl, rfl, .refl _⟩

theorem beat_watched (h : writer.traced = false) (queue : SendQueue) (now : Moment) :
    Loads (writer.beat queue now) (writer.watched.beat queue now) := by
  refine ⟨h, rfl, rfl, ?_⟩
  simp only [beat, h]
  exact .append (.trace rfl) (.refl _)

end Writer

/-! ### Nodes and links -/

namespace Desk

variable {τ : Type} {others : Behaviour τ} {net : Network (Desk τ)} {queue own link : LinkId}

/-- Nobody binds the link of the queue. -/
def Spares (others : Behaviour τ) (queue : LinkId) : Prop :=
  ∀ net link message, ∀ operation ∈ (others net link message).operations,
    (Task.perform operation).bound? ≠ some queue

/-- The line of a connection without tracing has a single link. -/
def Leads (own : LinkId) (net : Network (Desk τ)) : Prop :=
  ∀ line, net.links.line = some line → line.ends = ⟨own, own⟩

theorem Spares.behave (h : Spares others queue) : Spares (Desk.behave others) queue := by
  intro net link message operation hOperation
  rw [Desk.behave] at hOperation
  split at hOperation
  · exact h _ _ _ operation hOperation
  · split at hOperation
    · cases hOperation
    · split at hOperation
      · cases hOperation
      · exact h _ _ _ operation hOperation

/-- Tracing a link adds a line to the log and changes nothing else. -/
theorem behave_watched (others : Behaviour τ) (hLeads : Leads own net) (hLink : link ≠ queue)
    (log : List Notice) (message : Message) :
    let reaction := behave others net link message
    let reaction' := behave others (watched queue log net) link message
    reaction'.links = ⟨reaction.links.line.map (Line.watched queue), reaction.links.others⟩ ∧
      reaction'.operations = reaction.operations ∧ reaction'.verdict = reaction.verdict ∧
      Interlined reaction.notices reaction'.notices ∧
      ∀ line, reaction.links.line = some line → line.ends = ⟨own, own⟩ := by
  intro reaction reaction'
  cases hLine : net.links.line with
  | none =>
    have hPlain : reaction = elsewhere others net link message := by
      simp only [reaction, behave, hLine]
    have hWatched : reaction' = elsewhere others (watched queue log net) link message := by
      simp only [reaction', behave, watched, hLine, Option.map_none]
    rw [hPlain, hWatched]
    exact ⟨rfl, rfl, rfl, .refl _, hLeads⟩
  | some line =>
    have hEnds : line.ends = ⟨own, own⟩ := hLeads line hLine
    by_cases hOwn : link = own
    · have hPlain : reaction = offer line message net.links.others := by
        simp only [reaction, behave, hLine, hEnds, hOwn, if_true]
      have hWatched : reaction' = (offer (line.watched queue) message net.links.others).traced
          line.name message := by
        simp only [reaction', behave, watched, hLine, Option.map_some, Line.watched, hEnds,
          if_neg hLink, if_pos hOwn]
      rw [hPlain, hWatched]
      refine ⟨rfl, rfl, rfl, .append (.trace rfl) (.refl _), fun other hOther => ?_⟩
      rw [← Option.some.inj hOther]
      exact hEnds
    · have hPlain : reaction = elsewhere others net link message := by
        simp only [reaction, behave, hLine, hEnds, if_neg hOwn]
      have hWatched : reaction' = elsewhere others (watched queue log net) link message := by
        simp only [reaction', behave, watched, hLine, Option.map_some, Line.watched, hEnds,
          if_neg hLink, if_neg hOwn]
      rw [hPlain, hWatched]
      exact ⟨rfl, rfl, rfl, .refl _, hLeads⟩

theorem react_watched (others : Behaviour τ) (hLeads : Leads own net) (hLink : link ≠ queue)
    {log : List Notice} (hLog : Interlined net.log log) (message : Message) :
    ∃ log', Interlined (net.react (behave others) link message).1.log log' ∧
      (watched queue log net).react (behave others) link message =
        (watched queue log' (net.react (behave others) link message).1,
          (net.react (behave others) link message).2) ∧
      Leads own (net.react (behave others) link message).1 := by
  obtain ⟨hLinks, hOperations, hVerdict, hNotices, hLine⟩ :=
    behave_watched others hLeads hLink log message
  refine ⟨(behave others (watched queue log net) link message).notices.reverse ++ log, ?_, ?_, ?_⟩
  · rw [Network.react_eq]
    exact hNotices.reverse.append hLog
  · rw [Network.react_eq, Network.react_eq, hLinks, hOperations, hVerdict]
    rfl
  · rw [Network.react_eq]
    exact hLine

/-- Nodes and links do the same with tracing. -/
theorem step_watched (others : Behaviour τ) (hLeads : Leads own net) {task : Task}
    (hTask : task.link? ≠ some queue) {log : List Notice} (hLog : Interlined net.log log) :
    ∃ log', Interlined (net.step (behave others) task).1.log log' ∧
      (watched queue log net).step (behave others) task =
        (watched queue log' (net.step (behave others) task).1, (net.step (behave others) task).2) ∧
      Leads own (net.step (behave others) task).1 := by
  cases task with
  | perform operation =>
    have hPlain : net.step (behave others) (.perform operation) =
        (net.absorb (net.core.perform operation).1, (net.core.perform operation).2) :=
      net.perform_eq operation
    have hWatched : (watched queue log net).step (behave others) (.perform operation) =
        ((watched queue log net).absorb (net.core.perform operation).1,
          (net.core.perform operation).2) :=
      (watched queue log net).perform_eq operation
    rw [hPlain, hWatched]
    exact ⟨_, .append (.refl _) hLog, rfl, hLeads⟩
  | send id name link message reach =>
    have hLink : link ≠ queue := fun hSame => hTask (congrArg some hSame)
    obtain ⟨log', hLog', hReact, hLeads'⟩ :=
      react_watched others hLeads hLink hLog message
    have hSettling := congrArg (fun reacted : Network (Desk τ) × List Operation × Verdict =>
      (reacted.1, reacted.2.1.map Task.perform ++
        [Task.settle id name link message.target reach reacted.2.2])) hReact
    exact ⟨log', hLog', hSettling, hLeads'⟩
  | settle id name link target reach verdict =>
    have hPlain : net.step (behave others) (.settle id name link target reach verdict) =
        (net.absorb (net.core.settle id name link target reach verdict), []) :=
      congrArg (·, []) (net.settle_eq id name link target reach verdict)
    have hWatched : (watched queue log net).step (behave others)
          (.settle id name link target reach verdict) =
        ((watched queue log net).absorb (net.core.settle id name link target reach verdict), []) :=
      congrArg (·, []) ((watched queue log net).settle_eq id name link target reach verdict)
    rw [hPlain, hWatched]
    exact ⟨_, .append (.refl _) hLog, rfl, hLeads⟩

end Desk

/-! ### Stations -/

namespace Station

variable {τ : Type} {others : Behaviour τ} {queue : LinkId} {s t : Station τ}

/-- A station without tracing, where nobody knows the given link. -/
structure Unwatched (queue : LinkId) (s : Station τ) : Prop where
  connection : s.connection.Unwatched queue
  leads : Desk.Leads s.connection.ends.link s.net
  writer : ∀ writer, s.writer = some writer → writer.traced = false
  unknown : s.net.Unknown queue s.tasks

/-- The second station is the first one with tracing. -/
inductive Watches (queue : LinkId) (s : Station τ) : Station τ → Prop
  | intro {log : List Notice} : s.Unwatched queue → Interlined s.net.log log →
    Watches queue s (s.watched queue log)

namespace Watches

theorem unwatched (h : Watches queue s t) : s.Unwatched queue := by
  cases h with
  | intro hPlain hLog => exact hPlain

theorem eq (h : Watches queue s t) : t = s.watched queue t.net.log := by
  cases h with
  | intro hPlain hLog => rfl

theorem connection_eq (h : Watches queue s t) :
    t.connection = s.connection.watched queue :=
  congrArg Station.connection h.eq

theorem now_eq (h : Watches queue s t) : t.net.now = s.net.now := by
  rw [h.eq]
  rfl

theorem tasks_eq (h : Watches queue s t) : t.tasks = s.tasks := by
  rw [h.eq]
  rfl

theorem writer_eq (h : Watches queue s t) : t.writer = s.writer.map Writer.watched :=
  congrArg Station.writer h.eq

theorem line_eq (h : Watches queue s t) :
    t.net.links.line = s.net.links.line.map (Line.watched queue) := by
  rw [h.eq]
  rfl

theorem interlined (h : Watches queue s t) : Interlined s.net.log t.net.log := by
  cases h with
  | intro hPlain hLog => exact hLog

theorem perform (h : Watches queue s t) (hOthers : Desk.Spares others queue) (task : Task)
    (hTask : task.link? ≠ some queue) :
    Watches queue (s.perform others task) (t.perform others task) := by
  cases h with
  | intro hPlain hLog =>
    rename_i log
    obtain ⟨log', hLog', hStep, hLeads⟩ :=
      Desk.step_watched others hPlain.leads hTask hLog
    have hUnknown := hPlain.unknown.step hTask (hOthers.behave s.net)
    have hSame : (s.watched queue log).perform others task =
        (s.perform others task).watched queue log' :=
      congrArg (fun done : Network (Desk τ) × List Task =>
        ({ s.watched queue log with
            net := done.1
            tasks := s.tasks ++ done.2
            deeds := s.deeds ++ [⟨task, done.2⟩] } : Station τ)) hStep
    rw [hSame]
    exact .intro ⟨hPlain.connection, hLeads, hPlain.writer, hUnknown⟩ hLog'

theorem shut (h : Watches queue s t) : Watches queue s.shut t.shut := by
  cases h with
  | intro hPlain hLog =>
    rename_i log
    have hSame : (s.watched queue log).shut = s.shut.watched queue log := by
      simp only [Station.shut, Station.watched, Desk.watched, Option.map_map, Option.map_none]
      rfl
    rw [hSame]
    refine .intro ⟨hPlain.connection, ?_, nofun, hPlain.unknown.of_nodes rfl⟩ hLog
    intro line hLine
    obtain ⟨open', hOpen, rfl⟩ := Option.map_eq_some_iff.1 hLine
    exact hPlain.leads open' hOpen

theorem openLine (h : Watches queue s t) (name : String) {config : Config}
    (hConfig : config.traceFrames = false) :
    Watches queue (s.openLine s.connection.ends name config)
      (t.openLine ⟨queue, s.connection.ends.link⟩ name { config with traceFrames := true }) := by
  cases h with
  | intro hPlain hLog =>
    refine .intro ⟨hPlain.connection, ?_, ?_, hPlain.unknown.of_nodes rfl⟩ hLog
    · intro line hLine
      rw [← Option.some.inj hLine]
      exact hPlain.connection.direct
    · intro writer hWriter
      rw [← Option.some.inj hWriter]
      exact hConfig

theorem note (h : Watches queue s t) (notice : Notice) :
    Watches queue { s with net := s.net.note notice } { t with net := t.net.note notice } := by
  cases h with
  | intro hPlain hLog =>
    have hUnknown : (s.net.note notice).Unknown queue s.tasks := hPlain.unknown.of_nodes rfl
    exact .intro ⟨hPlain.connection, hPlain.leads, hPlain.writer, hUnknown⟩
      (.append (.refl [notice]) hLog)

/-- A line of tracing is all that there may be in addition. -/
theorem trace (h : Watches queue s t) {notice : Notice} (hTrace : notice.isTrace = true) :
    Watches queue s { t with net := t.net.note notice } := by
  cases h with
  | intro hPlain hLog => exact .intro hPlain (.append (.trace hTrace) hLog)

/-- The effects of a connection are carried out one after the other. -/
theorem carryOut (h : Watches queue s t) (hOthers : Desk.Spares others queue)
    {effects effects' : List Effect}
    (hShows : Shows queue s.connection.ends.link effects effects') :
    Watches queue (effects.foldl (Station.carryOut others) s)
      (effects'.foldl (Station.carryOut others) t) := by
  generalize hOwn : s.connection.ends.link = own at hShows
  induction hShows generalizing s t with
  | nil => exact h
  | note notice _ ih => exact ih (h.note notice) hOwn
  | publish state _ ih =>
    refine ih ?_ hOwn
    cases h with
    | intro hPlain hLog => exact .intro ⟨hPlain.1, hPlain.2, hPlain.3, hPlain.4⟩ hLog
  | close _ ih => exact ih h.shut hOwn
  | perform hOperation _ ih => exact ih (h.perform hOthers (.perform _) hOperation) hOwn
  | openLink name hEnds hConfig _ ih =>
    have hDirect := h.unwatched.connection.direct
    rw [hOwn] at hDirect
    have hOpened := h.openLine name hConfig
    rw [hDirect] at hOpened
    rw [hEnds]
    exact ih hOpened hOwn
  | trace hTrace _ ih => exact ih (h.trace hTrace) hOwn

theorem act (h : Watches queue s t) (hOthers : Desk.Spares others queue)
    {done done' : Connection × List Effect} (hSteps : s.connection.Steps queue done done') :
    Watches queue (s.act others done) (t.act others done') := by
  obtain ⟨hEnds, hConfig, hWatched, hShows⟩ := hSteps
  have hDone : Watches queue { s with connection := done.1 } { t with connection := done'.1 } := by
    cases h with
    | intro hPlain hLog =>
      rw [hWatched]
      refine .intro ⟨⟨?_, ?_, ?_⟩, ?_, hPlain.writer, hPlain.unknown⟩ hLog
      · exact hConfig ▸ hPlain.connection.untraced
      · exact hEnds ▸ hPlain.connection.direct
      · exact hEnds ▸ hPlain.connection.apart
      · exact hEnds ▸ hPlain.leads
  rw [← hEnds] at hShows
  exact hDone.carryOut hOthers hShows

theorem answer (h : Watches queue s t) (hOthers : Desk.Spares others queue) (message : Message) :
    Watches queue (s.answer others message) (t.answer others message) := by
  cases h with
  | intro hPlain hLog =>
    rename_i log
    obtain ⟨log', hLog', hReact, hLeads⟩ :=
      Desk.react_watched others hPlain.leads hPlain.connection.apart hLog message
    have hSame : (s.watched queue log).answer others message =
        (s.answer others message).watched queue log' :=
      congrArg (fun reacted : Network (Desk τ) × List Operation × Verdict =>
        ({ s.watched queue log with
            net := reacted.1
            tasks := s.tasks ++ reacted.2.1.map .perform
            verdicts := s.verdicts ++ [reacted.2.2] } : Station τ)) hReact
    rw [hSame]
    refine .intro ⟨hPlain.connection, hLeads, hPlain.writer, ?_⟩ hLog'
    refine (hPlain.unknown.of_nodes (Network.nodes_react ..)).append fun task hTask => ?_
    obtain ⟨operation, hOperation, rfl⟩ := List.mem_map.1 hTask
    exact hOthers.behave s.net _ message operation hOperation

theorem load (h : Watches queue s t) {line : Line} (hLine : line.ends = s.connection.ends)
    {batch batch' : Writer × SendQueue × List Notice} (hLoads : Writer.Loads batch batch') :
    Watches queue (s.load line batch) (t.load (line.watched queue) batch') := by
  cases h with
  | intro hPlain hLog =>
    rename_i log
    have hSame : (s.watched queue log).load (line.watched queue) batch' =
        (s.load line batch).watched queue (batch'.2.2.reverse ++ log) := by
      rw [Station.load, Station.load, Network.noteAll_eq, Network.noteAll_eq, hLoads.watched,
        hLoads.queue_eq]
      rfl
    rw [hSame, Station.load, Network.noteAll_eq]
    refine .intro ⟨hPlain.connection, ?_, ?_, ?_⟩ (.append hLoads.notices.reverse hLog)
    · intro other hOther
      rw [← Option.some.inj hOther]
      exact hLine.trans hPlain.connection.direct
    · intro writer hWriter
      rw [← Option.some.inj hWriter]
      exact hLoads.untraced
    · exact hPlain.unknown.of_nodes rfl

/-- A writer takes its turns with tracing as without. -/
theorem turn (h : Watches queue s t) {ready : Writer → SendQueue → Bool}
    {batch : Writer → SendQueue → Writer × SendQueue × List Notice}
    (hReady : ∀ (writer : Writer) queue, ready writer.watched queue = ready writer queue)
    (hBatch : ∀ (writer : Writer) queue, writer.traced = false →
      Writer.Loads (batch writer queue) (batch writer.watched queue)) :
    Watches queue (s.turn ready batch) (t.turn ready batch) := by
  rw [Station.turn, Station.turn, h.writer_eq, h.line_eq]
  cases hWriter : s.writer with
  | none => exact h
  | some writer =>
    cases hLine : s.net.links.line with
    | none => exact h
    | some line =>
      have hEnds : line.ends = s.connection.ends :=
        (h.unwatched.leads line hLine).trans h.unwatched.connection.direct.symm
      have hTraced : writer.traced = false := h.unwatched.writer writer hWriter
      show Watches queue _ (if writer.isIdle && ready writer.watched line.queue then _ else _)
      rw [hReady]
      show Watches queue (if _ then _ else _) _
      split
      · exact h.load hEnds (hBatch writer line.queue hTraced)
      · exact h

/-- **Every step of a station is a step of the same one with tracing.** -/
theorem step (h : Watches queue s t) (hOthers : Desk.Spares others queue) {event : Event}
    (hEvent : ∀ operation, event = .ask operation →
      (Task.perform operation).bound? ≠ some queue) :
    Watches queue (s.step others event) (t.step others event) := by
  cases event with
  | send message => exact h.answer hOthers message
  | ask operation => exact h.perform hOthers (.perform operation) (hEvent operation rfl)
  | work index =>
    simp only [Station.step, h.tasks_eq]
    cases hTask : s.tasks[index]? with
    | none => exact h
    | some task =>
      have hKnown : task.link? ≠ some queue :=
        h.unwatched.unknown.unnamed task (List.mem_of_getElem? hTask)
      refine Watches.perform ?_ hOthers task hKnown
      cases h with
      | intro hPlain hLog =>
        exact .intro ⟨hPlain.1, hPlain.2, hPlain.3, hPlain.unknown.erase index⟩ hLog
  | elapse now =>
    cases h with
    | intro hPlain hLog =>
      exact .intro ⟨hPlain.1, hPlain.2, hPlain.3, hPlain.unknown.of_nodes rfl⟩ hLog
  | proceed stopped =>
    simp only [Station.step, h.connection_eq, h.now_eq]
    exact h.act hOthers (Connection.proceed_watched h.unwatched.connection s.net.now stopped)
  | receive input =>
    simp only [Station.step, h.connection_eq, h.now_eq]
    exact h.act hOthers (Connection.receive_watched s.connection s.net.now input)
  | collect =>
    simp only [Station.step]
    exact h.turn (fun _ _ => rfl) fun _ queue hTraced => Writer.takeQueued_watched hTraced queue
  | beat =>
    simp only [Station.step, h.now_eq]
    exact h.turn (fun _ _ => rfl) fun _ queue hTraced => Writer.beat_watched hTraced queue s.net.now
  | flush count =>
    simp only [Station.step, h.writer_eq]
    cases hWriter : s.writer with
    | none => exact h
    | some writer =>
      cases h with
      | intro hPlain hLog =>
        refine .intro ⟨hPlain.1, hPlain.2, ?_, hPlain.4⟩ hLog
        intro flushed hFlushed
        rw [← Option.some.inj hFlushed]
        exact hPlain.writer writer hWriter
  | sever => exact h.shut

theorem run (h : Watches queue s t) (hOthers : Desk.Spares others queue) {events : List Event}
    (hEvents : ∀ operation, .ask operation ∈ events →
      (Task.perform operation).bound? ≠ some queue) :
    Watches queue (s.run others events) (t.run others events) := by
  induction events generalizing s t with
  | nil => exact h
  | cons event events ih =>
    refine ih (h.step hOthers ?_) ?_
    · rintro operation rfl
      exact hEvents operation List.mem_cons_self
    · intro operation hOperation
      exact hEvents operation (List.mem_cons_of_mem event hOperation)

end Watches

/-- Nobody has to do with the link of a queue but the connection that made it. -/
structure Hidden (others : Behaviour τ) (net : Network τ) (events : List Event)
    (queue : LinkId) : Prop where
  unbound : ∀ id name, net.linkAt id name ≠ some queue
  unasked : ∀ operation, .ask operation ∈ events → (Task.perform operation).bound? ≠ some queue
  spared : Desk.Spares others queue

theorem watches_start (far : Endpoint) (leftover : Bytes) (bases : Bases) {net : Network τ}
    (hUnbound : ∀ id name, net.linkAt id name ≠ some far.fresh) :
    Watches far.fresh (start (far.tracing false) leftover bases net)
      (start (far.tracing true) leftover bases net) := by
  refine .intro ⟨⟨rfl, rfl, ?_⟩, nofun, nofun, ⟨hUnbound, nofun⟩⟩ (.refl net.log)
  exact Nat.succ_ne_self far.fresh

/-- **Nobody can tell a traced connection from its deeds.** Messages that are sent to its link are
answered alike, the same bytes are written, the same operations are performed at the nodes, with
the same links denied, and the same tables and states result. With tracing or without, what comes in
is handed on with the link of the connection denied, so that a message for everyone does not go
back. The log alone has further lines at some levels, and these are lines of tracing. -/
theorem tracing_is_transparent (far : Endpoint) (others : Behaviour τ) (net : Network τ)
    (leftover : Bytes) (bases : Bases) (events : List Event)
    (hHidden : Hidden others net events far.fresh) :
    let station := fun traced => (start (far.tracing traced) leftover bases net).run others events
    ((station true).verdicts = (station false).verdicts ∧
      (station true).written = (station false).written ∧
      (station true).deeds = (station false).deeds ∧
      (station true).tasks = (station false).tasks ∧
      (station true).net.nodes = (station false).net.nodes ∧
      (station true).net.links.others = (station false).net.links.others ∧
      (station true).connection.stage = (station false).connection.stage ∧
      (station true).states = (station false).states) ∧
    (∀ traced, (far.tracing traced).ends.link = far.fresh + 1 ∧
      (station traced).HandsOn others (far.tracing traced)) ∧
    ∀ level, Interlined (shown level (station false).net.log)
      (shown level (station true).net.log) := by
  intro station
  have hWatches : Watches far.fresh (station false) (station true) :=
    (watches_start far leftover bases hHidden.unbound).run hHidden.spared hHidden.unasked
  refine ⟨?_, ?_, fun level => hWatches.interlined.shown level⟩
  · rw [hWatches.eq]
    exact ⟨rfl, rfl, rfl, rfl, rfl, rfl, rfl, rfl⟩
  · intro traced
    exact ⟨far.link_tracing traced,
      handsOn_run others (far.tracing traced) leftover bases net events⟩

/-- A lamp answers what comes in for everyone, by way of the connection. The same bytes are written
with tracing and without, and later messages are refused alike, but there are more lines in the
log. -/
theorem lamp_answers_alike :
    let far : Endpoint := ⟨0, "hub", 5, {}, true⟩
    let node : Node := { links := Bindings.empty.insert "lamp" 9 }
    let net : Network Nat := ⟨Bindings.empty.insert 0 node, 0, [], 0⟩
    let others : Behaviour Nat := fun net _ message =>
      { links := net.links + 1
        operations := [.transmit 0 ⟨message.source, some "lamp", [7]⟩ none] }
    let wave : Frame := ⟨some Path.everyone, some "switch", [1]⟩
    let events : List Event :=
      [.proceed false, .beat, .flush 100, .proceed false,
        .receive (.received ((wave.encode 0).toOption.getD [])), .proceed false, .proceed false,
        .work 2, .work 2, .work 3, .collect, .flush 100, .proceed true,
        .send ⟨some "switch", none, [1]⟩]
    let station := fun traced => (start (far.tracing traced) [] ⟨0⟩ net).run others events
    (station true).written = (station false).written ∧ (station true).written.length = 70 ∧
      (station true).verdicts = [.remove] ∧ (station true).net.linkAt 0 "hub" = none ∧
      (station true).net.log.length = (station false).net.log.length + 4 := by
  intro far node net others wave events station
  have hHidden : Hidden others net events 5 := by
    refine ⟨fun id name hLink => ?_, fun operation hOperation => ?_, ?_⟩
    · rw [Network.linkAt, Bindings.get?_insert] at hLink
      split at hLink
      · rw [Option.bind_some, Bindings.get?_insert] at hLink
        split at hLink
        · cases hLink
        · cases hLink
      · cases hLink
    · simp [events] at hOperation
    · intro now link message operation hOperation
      rw [List.mem_singleton.1 hOperation]
      exact (Option.some_ne_none 5).symm
  obtain ⟨⟨_, hWritten, _⟩, _⟩ := tracing_is_transparent far others net [] ⟨0⟩ events hHidden
  refine ⟨hWritten, ?_, ?_, ?_, ?_⟩
  · decide +kernel
  · decide +kernel
  · decide +kernel
  · decide +kernel

end Station

end Transport

end RobotBus
