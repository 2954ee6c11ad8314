import Mathlib.Data.List.Basic
import RobotBus.Proofs.Transport.Delivery

/-!
# Full send queues

What becomes of the messages that are sent to a queue, while others take from it and until nobody
does any more. A message is queued while there is space, dropped while there is none, and refused
once the queue is closed. Whoever takes from the queue gets what was queued, in order.

A queue remembers whether it overflows, and that is all it needs to log each overflow once: it
overflows exactly if a message was dropped and none was queued after it (`DroppedSince`). This is
the part of the invariant `Orderly` that says what is logged; `only_overflow_is_dropped` has the
whole history.
-/

namespace RobotBus.Transport

open Wire (Frame)

/-- What becomes of a message that is sent. -/
inductive Fate
  | queued
  | dropped
  | refused
deriving DecidableEq, Repr

/-! ## One message -/

namespace SendQueue

/-- What becomes of a message shows in the verdict and in the size of the queue behind it. -/
def fate (queue : SendQueue) (frame : Frame) : Fate :=
  if (queue.offer frame).2.2 = .remove then .refused
  else if queue.frames.size < (queue.offer frame).1.frames.size then .queued
  else .dropped

/-- No more messages are queued, but those that wait can still be taken. -/
def shut (queue : SendQueue) : SendQueue :=
  { queue with closed := true }

/-- All that an offer can come to, with the fate of the message. -/
theorem offer_cases (queue : SendQueue) (frame : Frame) :
    (queue.closed = false ∧ queue.frames.size < queue.capacity ∧ queue.fate frame = .queued ∧
      queue.offer frame = ({ queue with frames := queue.frames.push frame, overflowing := false },
        if queue.overflowing then [.queueAccepts queue.link] else [], .keep)) ∨
    (queue.closed = false ∧ queue.capacity ≤ queue.frames.size ∧ queue.fate frame = .dropped ∧
      queue.offer frame = ({ queue with overflowing := true },
        if queue.overflowing then [] else [.queueFull queue.link frame.target], .keep)) ∨
    (queue.closed = true ∧ queue.fate frame = .refused ∧
      queue.offer frame = (queue, [], .remove)) := by
  by_cases hClosed : queue.closed = true
  · have hOffer : queue.offer frame = (queue, [], .remove) := by
      rw [offer, if_pos hClosed]
    refine .inr (.inr ⟨hClosed, ?_, hOffer⟩)
    rw [fate, hOffer, if_pos rfl]
  · have hOpen : queue.closed = false := Bool.eq_false_iff.2 hClosed
    by_cases hSpace : queue.frames.size < queue.capacity
    · refine .inl ⟨hOpen, hSpace, ?_, ?_⟩
      · simp [fate, offer, hOpen, hSpace, Fifo.push]
      · rw [offer, if_neg hClosed, if_pos hSpace]
    · refine .inr (.inl ⟨hOpen, Nat.le_of_not_lt hSpace, ?_, ?_⟩)
      · simp [fate, offer, hOpen, hSpace]
      · rw [offer, if_neg hClosed, if_neg hSpace]

end SendQueue

/-- A message that was sent, with its fate and with what was logged. -/
structure Sent where
  frame : Frame
  fate : Fate
  notices : List Notice
deriving DecidableEq, Repr

/-- The messages that found a place in the queue. -/
def appended (sent : List Sent) : List Frame :=
  (sent.filter (·.fate = .queued)).map (·.frame)

/-- A message was dropped, and none was queued after it. -/
def DroppedSince (sent : List Sent) : Prop :=
  ∃ front last back, sent = front ++ last :: back ∧ last.fate = .dropped ∧
    ∀ other ∈ back, other.fate ≠ .queued

/-- What is logged with a message follows from the messages before it. The first one to be dropped
is reported, and the first one to be queued after that. -/
structure Sent.Told (link : String) (before : List Sent) (message : Sent) : Prop where
  full : message.notices = [.queueFull link message.frame.target] ↔
    message.fate = .dropped ∧ ¬DroppedSince before
  accepts : message.notices = [.queueAccepts link] ↔
    message.fate = .queued ∧ ∃ last, before.getLast? = some last ∧ last.fate = .dropped
  nothingElse : message.notices = [] ∨
    message.notices = [.queueFull link message.frame.target] ∨
    message.notices = [.queueAccepts link]

theorem not_droppedSince_nil : ¬DroppedSince [] := by
  rintro ⟨front, last, back, hSent, _⟩
  exact List.append_ne_nil_of_right_ne_nil front (List.cons_ne_nil last back) hSent.symm

theorem droppedSince_concat {sent : List Sent} {message : Sent} :
    DroppedSince (sent ++ [message]) ↔
      message.fate = .dropped ∨ (message.fate ≠ .queued ∧ DroppedSince sent) := by
  constructor
  · rintro ⟨front, last, back, hSent, hDropped, hBack⟩
    rcases back.eq_nil_or_concat' with rfl | ⟨back, final, rfl⟩
    · obtain ⟨_, hLast⟩ := List.append_inj' hSent rfl
      obtain rfl : message = last := List.singleton_inj.1 hLast
      exact .inl hDropped
    · rw [← List.cons_append, ← List.append_assoc] at hSent
      obtain ⟨hFront, hFinal⟩ := List.append_inj' hSent rfl
      obtain rfl : message = final := List.singleton_inj.1 hFinal
      refine .inr ⟨hBack message (List.mem_append_right _ List.mem_cons_self), ?_⟩
      exact ⟨front, last, back, hFront, hDropped,
        fun other hOther => hBack other (List.mem_append_left _ hOther)⟩
  · rintro (hDropped | ⟨hOther, front, last, back, rfl, hDropped, hBack⟩)
    · exact ⟨sent, message, [], rfl, hDropped, by simp⟩
    · refine ⟨front, last, back ++ [message], by simp, hDropped, ?_⟩
      exact List.forall_mem_append.2 ⟨hBack, by simpa using hOther⟩

/-- While no message is refused, it is the last one that tells whether the queue overflows. -/
theorem droppedSince_iff {sent : List Sent} (h : ∀ message ∈ sent, message.fate ≠ .refused) :
    DroppedSince sent ↔ ∃ last, sent.getLast? = some last ∧ last.fate = .dropped := by
  rcases sent.eq_nil_or_concat' with rfl | ⟨front, last, rfl⟩
  · simp [not_droppedSince_nil]
  · have hServed := h last (List.mem_append_right _ List.mem_cons_self)
    rw [droppedSince_concat, List.getLast?_concat]
    cases hFate : last.fate with
    | queued => simp [hFate]
    | dropped => simp [hFate]
    | refused => exact absurd hFate hServed

/-- Whatever holds of the messages sent so far and of the next one holds of all. -/
theorem forall_splits_concat {sent : List Sent} {next : Sent} {P : List Sent → Sent → Prop}
    (hSent : ∀ before message later, sent = before ++ message :: later → P before message)
    (hNext : P sent next) (before : List Sent) (message : Sent) (later : List Sent)
    (h : sent ++ [next] = before ++ message :: later) : P before message := by
  rcases later.eq_nil_or_concat' with rfl | ⟨later, last, rfl⟩
  · obtain ⟨rfl, hLast⟩ := List.append_inj' h rfl
    obtain rfl : next = message := List.singleton_inj.1 hLast
    exact hNext
  · rw [← List.cons_append, ← List.append_assoc] at h
    obtain ⟨hFront, _⟩ := List.append_inj' h rfl
    exact hSent before message later hFront

/-! ## Histories of a queue -/

/-- A queue with its history. -/
structure Traffic where
  queue : SendQueue
  sent : List Sent := []
  received : List Frame := []
  /-- What was waiting when the receiver went away. -/
  lost : List Frame := []
deriving DecidableEq, Repr

namespace Traffic

inductive Event
  | send (frame : Frame)
  | receive
  /-- The receiver wants no more than what waits. -/
  | shut
  /-- The receiver goes away. -/
  | leave
deriving DecidableEq, Repr

def Event.message? : Event → Option Frame
  | .send frame => some frame
  | _ => none

def Event.ends : Event → Bool
  | .shut | .leave => true
  | _ => false

def start (link : String) (capacity : Nat) : Traffic where
  queue := { link, capacity }

def step (t : Traffic) : Event → Traffic
  | .send frame =>
    { t with
      queue := (t.queue.offer frame).1
      sent := t.sent ++ [⟨frame, t.queue.fate frame, (t.queue.offer frame).2.1⟩] }
  | .receive =>
    match t.queue.take? with
    | some (frame, queue) => { t with queue, received := t.received ++ [frame] }
    | none => t
  | .shut => { t with queue := t.queue.shut }
  | .leave => { t with queue := t.queue.close, lost := t.queue.frames.toList ++ t.lost }

def run (t : Traffic) (events : List Event) : Traffic :=
  events.foldl step t

/-- The messages in a queue of capacity `n` are those that were queued and not yet received, and
what was logged follows from what was sent. -/
structure Orderly (link : String) (n : Nat) (t : Traffic) : Prop where
  link_eq : t.queue.link = link
  capacity_eq : t.queue.capacity = n
  bounded : t.queue.frames.size ≤ n
  flow : t.received ++ (t.queue.frames.toList ++ t.lost) = appended t.sent
  none_lost : t.queue.closed = false → t.lost = []
  served : t.queue.closed = false → ∀ message ∈ t.sent, message.fate ≠ .refused
  overflowing : t.queue.overflowing = true ↔ DroppedSince t.sent
  told : ∀ before message later, t.sent = before ++ message :: later → message.Told link before

variable {link : String} {n : Nat} {t : Traffic}

theorem Orderly.start (link : String) (n : Nat) : Orderly link n (start link n) where
  link_eq := rfl
  capacity_eq := rfl
  bounded := Nat.zero_le n
  flow := rfl
  none_lost _ := rfl
  served _ := by simp [Traffic.start]
  overflowing := by simp [Traffic.start, not_droppedSince_nil]
  told before message later h := by simp [Traffic.start] at h

/-- The queue logs what the messages before tell it to. -/
theorem Orderly.told_send (h : Orderly link n t) (frame : Frame) :
    Sent.Told link t.sent ⟨frame, t.queue.fate frame, (t.queue.offer frame).2.1⟩ := by
  have hOverflowing := h.overflowing
  rcases t.queue.offer_cases frame with
    ⟨hOpen, _, hFate, hOffer⟩ | ⟨_, _, hFate, hOffer⟩ | ⟨_, hFate, hOffer⟩
  · rw [hFate, hOffer, h.link_eq]
    -- while the queue is open, the flag says whether the last message was dropped
    have hLast := droppedSince_iff (h.served hOpen)
    by_cases hFlag : t.queue.overflowing = true
    · have hDropped := hLast.1 (hOverflowing.1 hFlag)
      constructor <;> simp [hFlag, hDropped]
    · have hNone := mt (fun hDropped => hOverflowing.2 (hLast.2 hDropped)) hFlag
      constructor
      · simp [hFlag]
      · simpa [hFlag] using hNone
      · simp [hFlag]
  · rw [hFate, hOffer, h.link_eq]
    by_cases hFlag : t.queue.overflowing = true
    · constructor <;> simp [hFlag, hOverflowing.1 hFlag]
    · have hNone := mt hOverflowing.2 hFlag
      constructor
      · simpa [hFlag] using hNone
      · simp [hFlag]
      · simp [hFlag]
  · rw [hFate, hOffer]
    constructor <;> simp

theorem appended_concat {sent : List Sent} {message : Sent} (h : message.fate = .queued) :
    appended (sent ++ [message]) = appended sent ++ [message.frame] := by
  simp [appended, h]

theorem appended_concat_of_ne {sent : List Sent} {message : Sent} (h : message.fate ≠ .queued) :
    appended (sent ++ [message]) = appended sent := by
  simp [appended, h]

theorem Orderly.send (h : Orderly link n t) (frame : Frame) :
    Orderly link n (t.step (.send frame)) := by
  have hTold := forall_splits_concat h.told (h.told_send frame)
  rw [step]
  rcases t.queue.offer_cases frame with
    ⟨hOpen, hSpace, hFate, hOffer⟩ | ⟨hOpen, _, hFate, hOffer⟩ | ⟨hClosed, hFate, hOffer⟩
  · rw [hFate, hOffer] at hTold ⊢
    refine { link_eq := h.link_eq, capacity_eq := h.capacity_eq, bounded := ?_, flow := ?_,
             none_lost := h.none_lost, served := ?_, overflowing := ?_, told := hTold }
    · rw [h.capacity_eq] at hSpace
      exact hSpace
    · have hFlow := h.flow
      rw [h.none_lost hOpen, List.append_nil] at hFlow
      rw [appended_concat rfl, h.none_lost hOpen, List.append_nil, Fifo.toList_push,
        ← List.append_assoc, hFlow]
    · intro _
      exact List.forall_mem_append.2 ⟨h.served hOpen, by simp⟩
    · simp [droppedSince_concat]
  · rw [hFate, hOffer] at hTold ⊢
    refine { link_eq := h.link_eq, capacity_eq := h.capacity_eq, bounded := h.bounded,
             flow := ?_, none_lost := h.none_lost, served := ?_, overflowing := ?_,
             told := hTold }
    · rw [appended_concat_of_ne (by simp)]
      exact h.flow
    · intro _
      exact List.forall_mem_append.2 ⟨h.served hOpen, by simp⟩
    · simp [droppedSince_concat]
  · rw [hFate, hOffer] at hTold ⊢
    refine { link_eq := h.link_eq, capacity_eq := h.capacity_eq, bounded := h.bounded,
             flow := ?_, none_lost := h.none_lost, served := ?_, overflowing := ?_,
             told := hTold }
    · rw [appended_concat_of_ne (by simp)]
      exact h.flow
    · intro hOpen
      cases hClosed.symm.trans hOpen
    · simp [droppedSince_concat, h.overflowing]

theorem Orderly.receive (h : Orderly link n t) : Orderly link n (t.step .receive) := by
  rw [step]
  split
  · rename_i frame queue hTake
    obtain ⟨frames, rfl, hFrames⟩ := SendQueue.of_take? hTake
    refine { link_eq := h.link_eq, capacity_eq := h.capacity_eq, bounded := ?_, flow := ?_,
             none_lost := h.none_lost, served := h.served, overflowing := h.overflowing,
             told := h.told }
    · have hBounded := h.bounded
      rw [← Fifo.length_toList, hFrames, List.length_cons] at hBounded
      rw [← Fifo.length_toList]
      exact Nat.le_of_succ_le hBounded
    · rw [← h.flow, hFrames, List.append_assoc]
      rfl
  · exact h

theorem Orderly.step (h : Orderly link n t) (event : Event) : Orderly link n (t.step event) := by
  cases event with
  | send frame => exact h.send frame
  | receive => exact h.receive
  | shut =>
    exact { link_eq := h.link_eq, capacity_eq := h.capacity_eq, bounded := h.bounded,
            flow := h.flow, none_lost := by simp [Traffic.step, SendQueue.shut],
            served := by simp [Traffic.step, SendQueue.shut], overflowing := h.overflowing,
            told := h.told }
  | leave =>
    exact { link_eq := h.link_eq, capacity_eq := h.capacity_eq, bounded := Nat.zero_le n,
            flow := h.flow, none_lost := by simp [Traffic.step, SendQueue.close],
            served := by simp [Traffic.step, SendQueue.close], overflowing := h.overflowing,
            told := h.told }

theorem Orderly.run (h : Orderly link n t) (events : List Event) :
    Orderly link n (t.run events) := by
  induction events generalizing t with
  | nil => exact h
  | cons event events ih => exact ih (h.step event)

/-! ## The next message -/

/-- Until the receiver wants no more, only a full queue drops a message. -/
theorem Orderly.offer_of_open (h : Orderly link n t) (hOpen : t.queue.closed = false)
    (frame : Frame) :
    (t.queue.offer frame).2.2 = .keep ∧
    (t.queue.frames.toList.length < n → t.queue.fate frame = .queued ∧
      (t.queue.offer frame).1.frames.toList = t.queue.frames.toList ++ [frame]) ∧
    (n ≤ t.queue.frames.toList.length → t.queue.fate frame = .dropped ∧
      (t.queue.offer frame).1.frames.toList = t.queue.frames.toList) := by
  rw [Fifo.length_toList]
  rcases t.queue.offer_cases frame with
    ⟨_, hSpace, hFate, hOffer⟩ | ⟨_, hFull, hFate, hOffer⟩ | ⟨hShut, _, _⟩
  · rw [h.capacity_eq] at hSpace
    rw [hFate, hOffer]
    refine ⟨rfl, fun _ => ⟨rfl, Fifo.toList_push t.queue.frames frame⟩, ?_⟩
    intro hFull
    exact absurd hSpace (Nat.not_lt.2 hFull)
  · rw [h.capacity_eq] at hFull
    rw [hFate, hOffer]
    refine ⟨rfl, ?_, fun _ => ⟨rfl, rfl⟩⟩
    intro hSpace
    exact absurd hSpace (Nat.not_lt.2 hFull)
  · cases hOpen.symm.trans hShut

theorem offer_of_closed (hShut : t.queue.closed = true) (frame : Frame) :
    t.queue.fate frame = .refused ∧ t.queue.offer frame = (t.queue, [], .remove) := by
  rcases t.queue.offer_cases frame with ⟨hOpen, _⟩ | ⟨hOpen, _⟩ | ⟨_, hRefused⟩
  · cases hOpen.symm.trans hShut
  · cases hOpen.symm.trans hShut
  · exact hRefused

/-! ## What the events tell -/

theorem closed_run (t : Traffic) (events : List Event) :
    (t.run events).queue.closed = (t.queue.closed || events.any Event.ends) := by
  induction events generalizing t with
  | nil => exact (Bool.or_false _).symm
  | cons event events ih =>
    have hStep : (t.step event).queue.closed = (t.queue.closed || event.ends) := by
      cases event with
      | send frame =>
        rw [step]
        rcases t.queue.offer_cases frame with
          ⟨_, _, _, hOffer⟩ | ⟨_, _, _, hOffer⟩ | ⟨_, _, hOffer⟩
        all_goals
          rw [hOffer]
          exact (Bool.or_false _).symm
      | receive =>
        rw [step]
        split
        · rename_i frame queue hTake
          obtain ⟨frames, rfl, _⟩ := SendQueue.of_take? hTake
          exact (Bool.or_false _).symm
        · exact (Bool.or_false _).symm
      | shut => exact (Bool.or_true _).symm
      | leave => exact (Bool.or_true _).symm
    rw [List.any_cons, ← Bool.or_assoc, ← hStep]
    exact ih (t.step event)

/-- Each message that is sent comes to one of the fates. -/
theorem map_frame_sent_run (t : Traffic) (events : List Event) :
    (t.run events).sent.map (·.frame) =
      t.sent.map (·.frame) ++ events.filterMap Event.message? := by
  induction events generalizing t with
  | nil => exact (List.append_nil _).symm
  | cons event events ih =>
    refine (ih (t.step event)).trans ?_
    cases event with
    | send frame => simp [step, Event.message?]
    | receive =>
      rw [step]
      split <;> rfl
    | shut => rfl
    | leave => rfl

theorem lost_run {events : List Event} (h : .leave ∉ events) (t : Traffic) :
    (t.run events).lost = t.lost := by
  induction events generalizing t with
  | nil => rfl
  | cons event events ih =>
    rw [List.mem_cons, not_or] at h
    refine (ih h.2 (t.step event)).trans ?_
    cases event with
    | send frame => rfl
    | receive =>
      rw [step]
      split <;> rfl
    | shut => rfl
    | leave => exact absurd rfl h.1

/-- Whoever receives as often as there are messages has all of them. -/
theorem received_run_receive (t : Traffic) :
    (t.run (List.replicate t.queue.frames.toList.length .receive)).received =
      t.received ++ t.queue.frames.toList := by
  generalize hFrames : t.queue.frames.toList = frames
  induction frames generalizing t with
  | nil => exact (List.append_nil _).symm
  | cons frame rest ih =>
    obtain ⟨frames, hTake, hRest⟩ := SendQueue.take?_of_toList hFrames
    let queue : SendQueue := { t.queue with frames }
    have hStep : t.step .receive = { t with queue, received := t.received ++ [frame] } := by
      rw [step, hTake]
    have hMore := ih { t with queue, received := t.received ++ [frame] } hRest
    change ((t.step .receive).run (List.replicate rest.length .receive)).received = _
    rw [hStep, hMore, List.append_assoc]
    rfl

/-- **A message is dropped only while the queue is full, and each overflow is logged once.** However
messages are sent and received, the queue of capacity `n` never holds more than `n` of them. Until
the receiver wants no more, the link of the queue stays, and a message is queued if there is space
for it and is otherwise the only one to be dropped; after that each message is refused and the queue
stays as it is. What was received and what waits is what was queued, in order, and it can all be
received unless the receiver leaves. A full queue is reported with the first message that is dropped
since one was queued, and that it accepts again with a message that is queued right after one that
was dropped. -/
theorem only_overflow_is_dropped (link : String) (n : Nat) (events : List Event) :
    let t := (start link n).run events
    let waiting := t.queue.frames.toList
    waiting.length ≤ n ∧
    (∀ frame, events.any Event.ends = false →
      (t.queue.offer frame).2.2 = .keep ∧
      (waiting.length < n → t.queue.fate frame = .queued ∧
        (t.queue.offer frame).1.frames.toList = waiting ++ [frame]) ∧
      (n ≤ waiting.length → t.queue.fate frame = .dropped ∧
        (t.queue.offer frame).1.frames.toList = waiting)) ∧
    (∀ frame, events.any Event.ends = true →
      t.queue.fate frame = .refused ∧ t.queue.offer frame = (t.queue, [], .remove)) ∧
    t.sent.map (·.frame) = events.filterMap Event.message? ∧
    t.received ++ (waiting ++ t.lost) = appended t.sent ∧
    (.leave ∉ events →
      (t.run (List.replicate waiting.length .receive)).received = appended t.sent) ∧
    ∀ before message later, t.sent = before ++ message :: later → message.Told link before := by
  intro t waiting
  have hOrderly : Orderly link n t := (Orderly.start link n).run events
  have hClosed : t.queue.closed = events.any Event.ends := closed_run (start link n) events
  refine ⟨?_, ?_, ?_, map_frame_sent_run (start link n) events, hOrderly.flow, ?_, hOrderly.told⟩
  · rw [Fifo.length_toList]
    exact hOrderly.bounded
  · intro frame hOpen
    exact hOrderly.offer_of_open (hClosed.trans hOpen) frame
  · intro frame hShut
    exact offer_of_closed (hClosed.trans hShut) frame
  · intro hStays
    have hFlow := hOrderly.flow
    have hLost : t.lost = [] := lost_run hStays (start link n)
    rw [hLost, List.append_nil] at hFlow
    rw [received_run_receive t, hFlow]

/-- Of four messages, the queue has space for two. One is received before the fifth is sent. -/
example :
    let message (number : UInt8) : Frame := ⟨some "arm", none, [number]⟩
    let t := (start "robot" 2).run
      [.send (message 1), .send (message 2), .send (message 3), .send (message 4), .receive,
        .send (message 5), .leave, .send (message 6)]
    t.sent.map (·.notices) =
      [[], [], [.queueFull "robot" (some "arm")], [], [.queueAccepts "robot"], []] ∧
      appended t.sent = [message 1, message 2, message 5] ∧ t.received = [message 1] := by
  decide

end Traffic

end RobotBus.Transport
