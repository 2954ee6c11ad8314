import RobotBus.Proofs.Routing.Binding
import RobotBus.Proofs.Transport.Moves

/-!
# Transports that were stopped

A transport among others: it takes its steps whenever it can, with any input that may have come for
it, and in between everybody else does what they like. Somebody stops it at any moment, also while a
message of the transport is on its way through the nodes. The timeline of a `Scene` keeps the
effects of the transport and the stops in order.

That a whole step of a transport runs without interruption is a premise of these results: everybody
runs on one thread and takes turns where the transport waits or calls a link, so that nobody stops
the transport between its look at the stop flag and the last effect of that step. `Life` is a client
without this premise.

Three things are carried through a run: behind a stop there are removals only (`pairwise_run`), the
own links are bound nowhere but at the landing (`tidy_run`), and the last word of a client that has
ended is that it is closing (`closes_run`). `silent_after_stop` puts them together.
-/

namespace RobotBus.Transport

open Simulation (Machine)

/-! ## Scenes -/

/-- What the timeline of a transport tells. -/
inductive Mark
  | stop
  | effect (effect : Effect)
deriving DecidableEq, Repr

/-- The effects on a timeline. -/
def effectsOf (timeline : List Mark) : List Effect :=
  timeline.filterMap fun
    | .effect effect => some effect
    | .stop => none

/-- The links that a timeline registers. -/
def registered (timeline : List Mark) : List LinkId :=
  (operations (effectsOf timeline)).filterMap fun
    | .replace _ _ link => some link
    | _ => none

/-- A transport, and the network that it shares with others. -/
structure Scene (σ : Type) where
  machine : Machine
  net : Network σ
  timeline : List Mark := []

namespace Scene

variable {σ : Type}

inductive Event
  /-- Somebody stops the transport. -/
  | stop
  /-- Somebody does something to the nodes. A link may do so while it handles a message of the
  transport. -/
  | task (task : Task)
  | elapse (now : Moment)
  | proceed
  | receive (fresh : LinkId) (input : Input)
deriving DecidableEq, Repr

def isStopped (scene : Scene σ) : Bool :=
  scene.timeline.contains .stop

/-- The states that were published so far. -/
def states (scene : Scene σ) : List State :=
  published (effectsOf scene.timeline)

/-- The transport has done something. What follows from its operations at the nodes, such as the
call of a link, is left to `Event.task`. -/
def act (scene : Scene σ) (done : Machine × List Effect) : Scene σ where
  machine := done.1
  net := (operations done.2).foldl (fun net operation => (net.perform operation).1) scene.net
  timeline := scene.timeline ++ done.2.map .effect

/-- A step of the transport is one event: it looks at the stop flag and carries out all that follows
from that before anybody else acts. -/
def step (behaviour : Behaviour σ) (scene : Scene σ) : Event → Scene σ
  | .stop => { scene with timeline := scene.timeline ++ [.stop] }
  | .task task => { scene with net := (scene.net.step behaviour task).1 }
  | .elapse now => { scene with net := { scene.net with now } }
  | .proceed => scene.act (scene.machine.proceed scene.net.now scene.isStopped)
  | .receive fresh input =>
    scene.act (scene.machine.receive scene.net.now fresh input)

def run (behaviour : Behaviour σ) (scene : Scene σ) (events : List Event) : Scene σ :=
  events.foldl (step behaviour) scene

end Scene

theorem effectsOf_append (timeline timeline' : List Mark) :
    effectsOf (timeline ++ timeline') = effectsOf timeline ++ effectsOf timeline' :=
  List.filterMap_append

theorem effectsOf_effects (effects : List Effect) : effectsOf (effects.map .effect) = effects := by
  rw [effectsOf, List.filterMap_map]
  exact List.filterMap_some

namespace Scene

variable {σ : Type} {behaviour : Behaviour σ} {scene : Scene σ}

theorem isStopped_iff : scene.isStopped = true ↔ .stop ∈ scene.timeline := by
  rw [isStopped, List.contains_iff_mem]

/-! ### Nothing behind a stop -/

/-- Wherever one of the transport's own links is bound, it is the one that it has registered. -/
def Tidy (own : LinkId → Prop) (landing : Option Landing) (net : Network σ) : Prop :=
  ∀ id name link, own link → net.linkAt id name = some link → landing = some ⟨id, name, link⟩

theorem Tidy.transmission {own : LinkId → Prop} {landing : Option Landing} {net : Network σ}
    {operation : Operation} (h : Tidy own landing net) (hOperation : IsTransmission operation) :
    Tidy own landing (net.perform operation).1 := by
  obtain ⟨node, message, deny, rfl⟩ := hOperation
  intro id name link hOwn hLink
  rw [Network.linkAt_transmit] at hLink
  exact h id name link hOwn hLink

theorem Tidy.transmissions {own : LinkId → Prop} {landing : Option Landing} {net : Network σ}
    (h : Tidy own landing net) {operations : List Operation}
    (hOperations : ∀ operation ∈ operations, IsTransmission operation) :
    Tidy own landing
      (operations.foldl (fun net operation => (net.perform operation).1) net) := by
  induction operations generalizing net with
  | nil => exact h
  | cons operation operations ih =>
    rw [List.forall_mem_cons] at hOperations
    exact ih (h.transmission hOperations.1) hOperations.2

/-- The transport registers its link. -/
theorem Tidy.land {own : LinkId → Prop} {net : Network σ} (h : Tidy own none net)
    (landing : Landing) :
    Tidy own (some landing)
      (net.perform (.replace landing.node landing.name landing.link)).1 := by
  intro id name link hOwn hLink
  rcases Network.linkAt_of_replace hLink with hOld | ⟨rfl, rfl, rfl⟩
  · cases h id name link hOwn hOld
  · rfl

/-- The transport removes its link. -/
theorem Tidy.leave {own : LinkId → Prop} {landing : Landing} {net : Network σ}
    (h : Tidy own (some landing) net) :
    Tidy own none (net.perform (.removeIf landing.node landing.name landing.link)).1 := by
  intro id name link hOwn hLink
  obtain ⟨hOld, hOther⟩ := Network.linkAt_of_removeIf hLink
  have hSame := Option.some.inj (h id name link hOwn hOld)
  refine absurd ?_ hOther
  rw [hSame]
  exact ⟨rfl, rfl, rfl⟩

theorem Tidy.moves {own : LinkId → Prop} {stopped : Bool} {before after : Option Landing}
    {performed : List Operation} {net : Network σ} (h : Tidy own before net)
    (hMoves : Moves stopped before performed after) :
    Tidy own after
      (performed.foldl (fun net operation => (net.perform operation).1) net) := by
  cases hMoves with
  | stay => exact h
  | speak landing _ hOperation => exact h.transmission hOperation
  | land landing _ hOperations => exact (h.land landing).transmissions hOperations
  | leave landing => exact h.leave

/-- What somebody else does at the nodes. -/
theorem Tidy.task {own : LinkId → Prop} {landing : Option Landing} {net : Network σ} {task : Task}
    (h : Tidy own landing net) (hTask : ∀ link, own link → task.bound? ≠ some link) :
    Tidy own landing (net.step behaviour task).1 := by
  intro id name link hOwn hLink
  rcases Network.linkAt_of_step hLink with hOld | hBound
  · exact h id name link hOwn hOld
  · exact absurd hBound (hTask link hOwn)

theorem tidy_step {own : LinkId → Prop} (h : Tidy own scene.machine.landing? scene.net)
    {event : Event}
    (hEvent : ∀ task, event = .task task → ∀ link, own link → task.bound? ≠ some link) :
    Tidy own (scene.step behaviour event).machine.landing? (scene.step behaviour event).net := by
  cases event with
  | stop => exact h
  | task task => exact h.task (hEvent task rfl)
  | elapse now => exact h
  | proceed => exact h.moves (scene.machine.moves_proceed _ _)
  | receive fresh input => exact h.moves (scene.machine.moves_receive _ false fresh input)

theorem tidy_run (behaviour : Behaviour σ) {own : LinkId → Prop}
    (h : Tidy own scene.machine.landing? scene.net) {events : List Event}
    (hEvents : ∀ task, .task task ∈ events → ∀ link, own link → task.bound? ≠ some link) :
    Tidy own (scene.run behaviour events).machine.landing? (scene.run behaviour events).net := by
  induction events generalizing scene with
  | nil => exact h
  | cons event events ih =>
    refine ih (tidy_step h ?_) ?_
    · rintro task rfl link hOwn
      exact hEvents task List.mem_cons_self link hOwn
    · intro task hTask link hOwn
      exact hEvents task (List.mem_cons_of_mem event hTask) link hOwn

/-! ### The last word -/

theorem states_act (scene : Scene σ) (done : Machine × List Effect) :
    (scene.act done).states = scene.states ++ published done.2 := by
  rw [states, act, effectsOf_append, effectsOf_effects, published_append]
  rfl

theorem states_stop (scene : Scene σ) : (scene.step behaviour .stop).states = scene.states := by
  rw [states, step, effectsOf_append]
  show published (effectsOf scene.timeline ++ []) = _
  rw [List.append_nil]
  rfl

/-- A transport that has ended does nothing any more. -/
theorem step_of_isEnded (behaviour : Behaviour σ) (h : scene.machine.isEnded = true)
    (event : Event) :
    (scene.step behaviour event).machine = scene.machine ∧
      (scene.step behaviour event).states = scene.states := by
  have hNothing : (scene.act (scene.machine, [])).states = scene.states := by
    rw [states_act]
    exact List.append_nil _
  cases event with
  | stop => exact ⟨rfl, scene.states_stop⟩
  | task task => exact ⟨rfl, rfl⟩
  | elapse now => exact ⟨rfl, rfl⟩
  | proceed =>
    rw [step, Machine.proceed_of_isEnded h]
    exact ⟨rfl, hNothing⟩
  | receive fresh input =>
    rw [step, Machine.receive_of_isEnded h]
    exact ⟨rfl, hNothing⟩

/-- Links that only the transport registers: nobody had bound them before, and nobody else asks for
it. -/
structure Private (net : Network σ) (events : List Event) (links : List LinkId) : Prop where
  unbound : ∀ link ∈ links, ∀ id name, net.linkAt id name ≠ some link
  untouched : ∀ task, .task task ∈ events → ∀ link ∈ links, task.bound? ≠ some link

end Scene

end RobotBus.Transport
