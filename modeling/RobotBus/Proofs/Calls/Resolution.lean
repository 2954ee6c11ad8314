import RobotBus.Proofs.Calls.Run

/-!
# How calls are resolved

Seen from one call, a run of its manager goes through few phases: the call waits, it is answered by
the one message that resolves it or it is closed, and it ends. `advance` says that every event is
one of the steps between them, and `story_run` adds up what a whole run tells about the call: the
results of the messages that resolved it, and how it ended. `resolution_safe` is what callers rely
on.
-/

namespace RobotBus.Calls

/-! ## One call -/

inductive Phase
  | future
  | underway (channel : Channel)
  | over

/-- What one event does to a call: the result that it brings, and how it ends the call. -/
inductive Advance : Phase → Option Bytes → Option Ending → Phase → Prop
  | stay (phase : Phase) : Advance phase none none phase
  | begin : Advance .future none none (.underway .waiting)
  | answer (result : Bytes) :
    Advance (.underway .waiting) (some result) none (.underway (.answered result))
  | close : Advance (.underway .waiting) none none (.underway .closed)
  | finish {channel : Channel} {ending : Ending} (h : ending.Fits channel) :
    Advance (.underway channel) none (some ending) .over

/-- What has come of a call: all results that were brought for it, and all its endings. -/
inductive Story : Phase → List Bytes → List Ending → Prop
  | future : Story .future [] []
  | waiting : Story (.underway .waiting) [] []
  | answered (result : Bytes) : Story (.underway (.answered result)) [result] []
  | closed : Story (.underway .closed) [] []
  | returned (result : Bytes) : Story .over [result] [.returned (.ok result)]
  | failed (cause : BusError) : Story .over [] [.returned (.error cause)]
  | cancelled {results : List Bytes} (h : results.length ≤ 1) : Story .over results [.cancelled]

theorem Story.advance {phase next : Phase} {results : List Bytes} {endings : List Ending}
    {result : Option Bytes} {ending : Option Ending} (h : Story phase results endings)
    (hStep : Advance phase result ending next) :
    Story next (results ++ result.toList) (endings ++ ending.toList) := by
  cases hStep with
  | stay =>
    rw [Option.toList_none, Option.toList_none, List.append_nil, List.append_nil]
    exact h
  | begin =>
    cases h
    exact .waiting
  | answer result =>
    cases h
    exact .answered result
  | close =>
    cases h
    exact .closed
  | @finish channel ending hFits =>
    cases ending with
    | cancelled =>
      cases h with
      | waiting => exact .cancelled (Nat.zero_le 1)
      | answered result => exact .cancelled (Nat.le_refl 1)
      | closed => exact .cancelled (Nat.zero_le 1)
    | returned outcome =>
      cases h with
      | waiting =>
        obtain ⟨cause, rfl⟩ := hFits
        exact .failed cause
      | answered result =>
        obtain rfl : outcome = .ok result := hFits
        exact .returned result
      | closed =>
        obtain ⟨cause, rfl⟩ := hFits
        exact .failed cause

theorem Story.endings_le {phase : Phase} {results : List Bytes} {endings : List Ending}
    (h : Story phase results endings) : endings.length ≤ 1 := by
  cases h <;> simp

namespace Manager

variable {manager : Manager}

def phase (manager : Manager) (number : Nat) : Phase :=
  match manager.calls.get? number with
  | some call => .underway call.channel
  | none => if number < manager.started then .over else .future

/-- The result that an event brings for a call. -/
def result? (manager : Manager) (number : Nat) : Event → Option Bytes
  | .message message _ =>
    if manager.Resolves number message then some (message.payload.drop 1) else none
  | _ => none

/-- How an event ends a call. -/
def endingOf? (manager : Manager) (number : Nat) (event : Event) : Option Ending :=
  (manager.ending? event).bind fun (ended, ending) => if ended = number then some ending else none

/-- The results of all messages of a run that resolve a call. -/
def results (manager : Manager) (number : Nat) : List Event → List Bytes
  | [] => []
  | event :: events =>
    (manager.result? number event).toList ++ (manager.step event).results number events

/-- All endings of a call in a run. -/
def endingsOf (manager : Manager) (number : Nat) : List Event → List Ending
  | [] => []
  | event :: events =>
    (manager.endingOf? number event).toList ++ (manager.step event).endingsOf number events

theorem phase_of_get? {number : Nat} {call : Call} (h : manager.calls.get? number = some call) :
    manager.phase number = .underway call.channel := by
  rw [phase, h]

/-- A step that does not touch a call. -/
theorem phase_congr {next : Manager} {number : Nat}
    (hCalls : next.calls.get? number = manager.calls.get? number)
    (hStarted : next.started = manager.started) : next.phase number = manager.phase number := by
  rw [phase, phase, hCalls, hStarted]

theorem Sound.advance_invoke (h : Sound manager) (number : Nat) (target : String)
    (arguments : Bytes) (timeout : Duration) (now : Moment) :
    Advance (manager.phase number) none none
      ((manager.step (.invoke target arguments timeout now)).phase number) := by
  rcases step_invoke manager target arguments timeout now with
    hStep | ⟨call, invocation, next, hChannel, _, _, hStep⟩
  · rw [hStep]
    exact .stay _
  · rw [hStep]
    by_cases hNew : manager.started = number
    · subst hNew
      rw [phase, phase, h.get?_started, Bindings.get?_insert, if_pos rfl]
      simp only [Nat.lt_irrefl, if_false, hChannel]
      exact .begin
    · have hSame : (manager.calls.insert manager.started call).get? number =
          manager.calls.get? number := by
        rw [Bindings.get?_insert, if_neg hNew]
      have hPhase : Manager.phase { manager with
          pending := ⟨next, manager.pending.invocations.insert call.id invocation⟩
          calls := manager.calls.insert manager.started call
          started := manager.started + 1 } number = manager.phase number := by
        rw [phase, phase, hSame]
        have hBound : number < manager.started + 1 ↔ number < manager.started := by omega
        simp only [hBound]
      rw [hPhase]
      exact .stay _

theorem Sound.advance_message (h : Sound manager) (number : Nat) (message : Message)
    (now : Moment) :
    Advance (manager.phase number) (manager.result? number (.message message now)) none
      ((manager.step (.message message now)).phase number) := by
  rw [result?]
  by_cases hHits : ∃ id invocation, manager.Hits message id invocation
  · obtain ⟨id, invocation, hHits⟩ := hHits
    obtain ⟨call, hCall, _, hWaits, hStep⟩ := h.receive_of_hits hHits now
    change Advance _ _ none ((manager.receive message now).1.phase number)
    rw [hStep]
    by_cases hOwn : invocation.call = number
    · subst hOwn
      rw [if_pos ((resolves_iff h).2 ⟨id, invocation, hHits, rfl⟩), phase_of_get? hCall, hWaits,
        phase, Bindings.get?_insert, if_pos rfl]
      exact .answer _
    · have hOther : ¬manager.Resolves number message := by
        intro hResolves
        obtain ⟨_, other, hOther, hNumber⟩ := (resolves_iff h).1 hResolves
        exact hOwn (hHits.unique hOther ▸ hNumber)
      rw [if_neg hOther]
      have hPhase : Manager.phase { manager with
          pending := manager.pending.remove id
          calls := manager.calls.insert invocation.call
            { call with channel := .answered (message.payload.drop 1) } } number =
              manager.phase number :=
        phase_congr (by rw [Bindings.get?_insert, if_neg hOwn]) rfl
      rw [hPhase]
      exact .stay _
  · have hNone : ¬manager.Resolves number message := by
      intro hResolves
      obtain ⟨id, invocation, hHit, _⟩ := (resolves_iff h).1 hResolves
      exact hHits ⟨id, invocation, hHit⟩
    have hSame : (manager.receive message now).1 = manager :=
      receive_of_not_hits now fun id invocation hHit => hHits ⟨id, invocation, hHit⟩
    change Advance _ _ none ((manager.receive message now).1.phase number)
    rw [if_neg hNone, hSame]
    exact .stay _

/-- The end of one call, seen from any call. -/
theorem Sound.advance_finish (h : Sound manager) (number : Nat) {ended : Nat} {call : Call}
    {ending : Ending} (hCall : manager.calls.get? ended = some call)
    (hFits : ending.Fits call.channel) :
    Advance (manager.phase number) none (if ended = number then some ending else none)
      ((manager.finish ended).phase number) := by
  by_cases hOwn : ended = number
  · subst hOwn
    rw [if_pos rfl, phase_of_get? hCall, phase, get?_finish_self, started_finish]
    simp only [h.started _ _ hCall, if_true]
    exact .finish hFits
  · rw [if_neg hOwn]
    rcases get?_finish_other manager (Ne.symm hOwn) with
      hSame | ⟨_, _, other, _, _, _, hOther, hWaits, hClosed⟩
    · rw [phase_congr hSame (started_finish manager ended)]
      exact .stay _
    · rw [phase_of_get? hOther, phase_of_get? hClosed, hWaits]
      exact .close

/-- **Every event takes a call one step on, or leaves it as it is.** -/
theorem Sound.advance (h : Sound manager) (number : Nat) (event : Event) :
    Advance (manager.phase number) (manager.result? number event)
      (manager.endingOf? number event) ((manager.step event).phase number) := by
  cases event with
  | invoke target arguments timeout now =>
    exact h.advance_invoke number target arguments timeout now
  | message message now => exact h.advance_message number message now
  | poll ended now =>
    change Advance _ none _ ((manager.poll ended now).1.phase number)
    rw [endingOf?, ending?]
    rcases manager.poll_cases ended now with
      ⟨hSame, hNone⟩ | ⟨call, outcome, hCall, hFits, hFinish, hOutcome⟩
    · rw [hSame, hNone]
      exact .stay _
    · rw [hFinish, hOutcome]
      exact h.advance_finish number hCall hFits
  | cancel ended =>
    change Advance _ none _ ((manager.finish ended).phase number)
    rw [endingOf?, ending?, Bindings.contains]
    cases hCall : manager.calls.get? ended with
    | none =>
      rw [finish_of_none hCall]
      exact .stay _
    | some call =>
      have hFits : Ending.Fits call.channel .cancelled := by
        cases call.channel <;> trivial
      exact h.advance_finish number hCall hFits

/-- **What a run tells about a call fits to the phase in which it leaves the call.** -/
theorem Sound.story_run (h : Sound manager) {number : Nat} {results : List Bytes}
    {endings : List Ending} (hStory : Story (manager.phase number) results endings)
    (events : List Event) :
    Story ((manager.run events).phase number) (results ++ manager.results number events)
      (endings ++ manager.endingsOf number events) := by
  induction events generalizing manager results endings with
  | nil =>
    rw [Manager.results, endingsOf, List.append_nil, List.append_nil]
    exact hStory
  | cons event events ih =>
    have hNext := ih (h.step event) (hStory.advance (h.advance number event))
    rw [List.append_assoc, List.append_assoc] at hNext
    exact hNext

/-! ## All calls -/

theorem results_append (manager : Manager) (number : Nat) (events events' : List Event) :
    manager.results number (events ++ events') =
      manager.results number events ++ (manager.run events).results number events' := by
  induction events generalizing manager with
  | nil => rfl
  | cons event events ih =>
    rw [List.cons_append, results, results, ih, List.append_assoc]
    rfl

/-- A message that resolves a call brings one of its results. -/
theorem results_of_resolves {number : Nat} {before : List Event} {message : Message}
    (h : (manager.run before).Resolves number message) (now : Moment) (after : List Event) :
    ∃ more, manager.results number (before ++ .message message now :: after) =
      manager.results number before ++ message.payload.drop 1 :: more := by
  rw [results_append, results, result?, if_pos h]
  exact ⟨_, rfl⟩

/-- The first result of a call was brought by a message that resolves it. -/
theorem exists_of_results_eq_cons {number : Nat} {events : List Event} {result : Bytes}
    {more : List Bytes} (h : manager.results number events = result :: more) :
    ∃ before message now after, events = before ++ .message message now :: after ∧
      (manager.run before).Resolves number message ∧ result = message.payload.drop 1 ∧
      manager.results number before = [] := by
  induction events generalizing manager with
  | nil => cases h
  | cons event events ih =>
    rw [results] at h
    cases hResult : manager.result? number event with
    | some found =>
      rw [hResult] at h
      obtain ⟨rfl, _⟩ := List.cons.inj h
      cases event with
      | message message now =>
        rw [result?] at hResult
        split at hResult
        · rename_i hResolves
          exact ⟨[], message, now, events, rfl, hResolves, (Option.some.inj hResult).symm, rfl⟩
        · cases hResult
      | invoke _ _ _ _ | poll _ _ | cancel _ => cases hResult
    | none =>
      rw [hResult] at h
      obtain ⟨before, message, now, after, rfl, hResolves, hPayload, hFirst⟩ := ih h
      refine ⟨event :: before, message, now, after, rfl, hResolves, hPayload, ?_⟩
      rw [results, hResult, hFirst]
      rfl

theorem endingsOf_eq_filterMap (manager : Manager) (number : Nat) (events : List Event) :
    manager.endingsOf number events = (manager.endings events).filterMap fun (ended, ending) =>
      if ended = number then some ending else none := by
  induction events generalizing manager with
  | nil => rfl
  | cons event events ih =>
    rw [endingsOf, endings, List.filterMap_append, ih, endingOf?]
    cases manager.ending? event with
    | none => rfl
    | some ended =>
      obtain ⟨ended, ending⟩ := ended
      rw [Option.bind_some, Option.toList_some, List.filterMap_cons]
      by_cases hEnded : ended = number
      · simp only [if_pos hEnded]
        rfl
      · simp only [if_neg hEnded]
        rfl

theorem mem_endings_iff {number : Nat} {ending : Ending} {events : List Event} :
    (number, ending) ∈ manager.endings events ↔ ending ∈ manager.endingsOf number events := by
  rw [endingsOf_eq_filterMap, List.mem_filterMap]
  constructor
  · intro h
    exact ⟨_, h, if_pos rfl⟩
  · rintro ⟨⟨ended, other⟩, hMem, hSome⟩
    change (if ended = number then some other else none) = some ending at hSome
    by_cases hEnded : ended = number
    · rw [if_pos hEnded, Option.some.injEq] at hSome
      exact hEnded ▸ hSome ▸ hMem
    · rw [if_neg hEnded] at hSome
      cases hSome

theorem count_endings (manager : Manager) (number : Nat) (events : List Event) :
    ((manager.endings events).map Prod.fst).count number =
      (manager.endingsOf number events).length := by
  rw [endingsOf_eq_filterMap]
  induction manager.endings events with
  | nil => rfl
  | cons ended rest ih =>
    rw [List.map_cons, List.count_cons, List.filterMap_cons, ih]
    by_cases hEnded : ended.1 = number
    · simp only [if_pos hEnded, beq_iff_eq, List.length_cons]
    · simp only [if_neg hEnded, beq_iff_eq, Nat.add_zero]

/-- What callers rely on in a run that begins with a new manager. -/
structure Safe (start : Manager) (events : List Event) : Prop where
  /-- A call ends at most once. -/
  once : ((start.endings events).map Prod.fst).Nodup
  /-- A call returns the payload of the first message that resolves it, without its tag. -/
  returned : ∀ number result, (number, .returned (.ok result)) ∈ start.endings events →
    ∃ before message now after, events = before ++ .message message now :: after ∧
      (start.run before).Resolves number message ∧ result = message.payload.drop 1 ∧
      ∀ earlier message' now' later, before = earlier ++ .message message' now' :: later →
        ¬(start.run earlier).Resolves number message'
  /-- A call that was resolved does not return anything else. -/
  resolved : ∀ before message now after number outcome,
    events = before ++ .message message now :: after → (start.run before).Resolves number message →
    (number, .returned outcome) ∈ start.endings events → outcome = .ok (message.payload.drop 1)
  /-- A message takes the entry of the call that it resolves off the pending ones, and no other. -/
  removed : ∀ message now,
    ((start.run events).receive message now).1.pending = (start.run events).pending ∨
      ∃ number, (start.run events).Resolves number message ∧
        ∃ call ∈ (start.run events).calls.get? number,
          ((start.run events).receive message now).1.pending =
            (start.run events).pending.remove call.id
  /-- All other messages leave the manager as it is. -/
  ignored : ∀ message now,
    (message.target = none ∨ message.target = some Path.everyone ∨
      (∃ path, message.target = some path ∧
        ∀ id, InvocationId.Denotes path id → (start.run events).pending.get? id = none) ∨
      Payload.tag? message.payload ≠ some .invokeReply) →
    ((start.run events).receive message now).1 = start.run events
  /-- No two entries have one number. -/
  distinct : (start.run events).pending.invocations.keys.Nodup
  /-- Every entry is that of a call that was registered under its number and has not ended. -/
  underway : ∀ id invocation, (start.run events).pending.get? id = some invocation →
    invocation.call < (start.run events).started ∧
      invocation.call ∉ (start.endings events).map Prod.fst ∧
      ∃ call ∈ (start.run events).calls.get? invocation.call, call.id = id
  /-- When all calls have ended, nothing is pending. -/
  cleared : (∀ number < (start.run events).started,
      number ∈ (start.endings events).map Prod.fst) → (start.run events).pendingCount = 0

/-! ## Every run -/

variable (endpoint : String) (timeout : Duration) (events : List Event)

theorem sound_run : Sound ((start endpoint timeout).run events) :=
  (sound_start endpoint timeout).run events

theorem story (number : Nat) :
    Story (((start endpoint timeout).run events).phase number)
      ((start endpoint timeout).results number events)
      ((start endpoint timeout).endingsOf number events) :=
  (sound_start endpoint timeout).story_run .future events

theorem once_run : (((start endpoint timeout).endings events).map Prod.fst).Nodup := by
  rw [List.nodup_iff_count]
  intro number
  rw [count_endings]
  exact (story endpoint timeout events number).endings_le

/-- A result that was returned is the only one that was brought. -/
theorem results_of_returned {number : Nat} {outcome : Outcome}
    (h : (number, .returned outcome) ∈ (start endpoint timeout).endings events) :
    match outcome with
    | .ok result => (start endpoint timeout).results number events = [result]
    | .error _ => (start endpoint timeout).results number events = [] := by
  have hMem := mem_endings_iff.1 h
  have hStory := story endpoint timeout events number
  generalize ((start endpoint timeout).run events).phase number = phase at hStory
  generalize (start endpoint timeout).results number events = results at hStory ⊢
  generalize (start endpoint timeout).endingsOf number events = endings at hStory hMem
  cases hStory with
  | future | waiting | answered | closed => cases hMem
  | returned result =>
    cases List.mem_singleton.1 hMem
    rfl
  | failed cause =>
    cases List.mem_singleton.1 hMem
    rfl
  | cancelled => cases List.mem_singleton.1 hMem

theorem pending_receive {manager : Manager} (h : Sound manager) (message : Message)
    (now : Moment) :
    (manager.receive message now).1.pending = manager.pending ∨
      ∃ number, manager.Resolves number message ∧ ∃ call ∈ manager.calls.get? number,
        (manager.receive message now).1.pending = manager.pending.remove call.id := by
  by_cases hHits : ∃ id invocation, manager.Hits message id invocation
  · obtain ⟨id, invocation, hHits⟩ := hHits
    obtain ⟨call, hCall, rfl, _, hStep⟩ := h.receive_of_hits hHits now
    refine .inr ⟨invocation.call, (resolves_iff h).2 ⟨_, _, hHits, rfl⟩, call, hCall, ?_⟩
    rw [hStep]
  · left
    rw [receive_of_not_hits now fun id invocation hHit => hHits ⟨id, invocation, hHit⟩]

theorem receive_ignored {manager : Manager} {message : Message} (now : Moment)
    (h : message.target = none ∨ message.target = some Path.everyone ∨
      (∃ path, message.target = some path ∧
        ∀ id, InvocationId.Denotes path id → manager.pending.get? id = none) ∨
      Payload.tag? message.payload ≠ some .invokeReply) :
    (manager.receive message now).1 = manager := by
  refine receive_of_not_hits now fun id invocation hHit => ?_
  obtain ⟨hTag, ⟨path, hTarget, hDenotes⟩, hEntry⟩ := hHit
  rcases h with hNone | hEveryone | ⟨path', hTarget', hFree⟩ | hOther
  · rw [hNone] at hTarget
    cases hTarget
  · rw [hEveryone] at hTarget
    cases hTarget
    rw [← InvocationId.ofPath?_eq_some_iff, ofPath?_everyone] at hDenotes
    cases hDenotes
  · cases hTarget.symm.trans hTarget'
    rw [hFree id hDenotes] at hEntry
    cases hEntry
  · exact hOther hTag

theorem underway_of_entry {id : InvocationId} {invocation : Invocation}
    (h : ((start endpoint timeout).run events).pending.get? id = some invocation) :
    invocation.call < ((start endpoint timeout).run events).started ∧
      invocation.call ∉ ((start endpoint timeout).endings events).map Prod.fst ∧
      ∃ call ∈ ((start endpoint timeout).run events).calls.get? invocation.call, call.id = id := by
  have hSound := sound_run endpoint timeout events
  obtain ⟨call, hCall, hId, hWaits⟩ := hSound.waiting id invocation h
  refine ⟨hSound.started _ _ hCall, ?_, call, hCall, hId⟩
  have hStory := story endpoint timeout events invocation.call
  rw [phase_of_get? hCall, hWaits] at hStory
  rw [← List.count_eq_zero, count_endings]
  generalize (start endpoint timeout).results invocation.call events = results at hStory
  generalize (start endpoint timeout).endingsOf invocation.call events = endings at hStory ⊢
  cases hStory
  rfl

theorem pendingCount_eq_zero
    (h : ∀ number < ((start endpoint timeout).run events).started,
      number ∈ ((start endpoint timeout).endings events).map Prod.fst) :
    ((start endpoint timeout).run events).pendingCount = 0 := by
  generalize hManager : (start endpoint timeout).run events = manager
  cases hEntries : manager.pending.invocations.entries with
  | nil => rw [pendingCount, Pending.size, Bindings.size, hEntries, List.length_nil]
  | cons entry rest =>
    have hFirst : manager.pending.get? entry.1 = some entry.2 := by
      rw [Pending.get?, Bindings.get?, hEntries, Bindings.lookup, if_pos rfl]
    rw [← hManager] at hFirst
    obtain ⟨hStarted, hGoing, _⟩ := underway_of_entry endpoint timeout events hFirst
    exact absurd (h _ hStarted) hGoing

/-- **Calls are resolved safely in every run**: each ends at most once, returns a result only if it
is that of the first message that resolves it, and is not said to have timed out when there is
one. -/
theorem resolution_safe : Safe (start endpoint timeout) events where
  once := once_run endpoint timeout events
  returned number result h := by
    have hResults := results_of_returned endpoint timeout events h
    obtain ⟨before, message, now, after, rfl, hResolves, hPayload, hFirst⟩ :=
      exists_of_results_eq_cons hResults
    refine ⟨before, message, now, after, rfl, hResolves, hPayload, ?_⟩
    rintro earlier message' now' later rfl hEarlier
    obtain ⟨more, hMore⟩ := results_of_resolves hEarlier now' later
    rw [hFirst] at hMore
    exact absurd hMore.symm (List.append_ne_nil_of_right_ne_nil _ (List.cons_ne_nil _ _))
  resolved before message now after number outcome hEvents hResolves h := by
    subst hEvents
    have hResults := results_of_returned endpoint timeout _ h
    obtain ⟨more, hMore⟩ := results_of_resolves hResolves now after
    cases outcome with
    | ok result =>
      rw [hMore] at hResults
      rcases List.append_eq_singleton_iff.1 hResults with ⟨_, hOnly⟩ | ⟨_, hNone⟩
      · rw [(List.cons.inj hOnly).1]
      · cases hNone
    | error cause =>
      rw [hMore] at hResults
      exact absurd hResults (List.append_ne_nil_of_right_ne_nil _ (List.cons_ne_nil _ _))
  removed := pending_receive (sound_run endpoint timeout events)
  ignored _ now := receive_ignored now
  distinct := ((start endpoint timeout).run events).pending.invocations.distinct
  underway _ _ := underway_of_entry endpoint timeout events
  cleared := pendingCount_eq_zero endpoint timeout events

theorem resolution_of_one_call :
    let events : List Event := [.invoke "lamp" [] 5 0, .message ⟨some "00000000", none, [14, 7]⟩ 1,
      .message ⟨some "00000000", none, [14, 8]⟩ 2, .poll 0 9]
    (start "calls" 5).endings events = [(0, .returned (.ok [7]))] ∧
      ∃ before message now after, events = before ++ .message message now :: after ∧
        ((start "calls" 5).run before).Resolves 0 message ∧ [7] = message.payload.drop 1 := by
  intro events
  have hEndings : (start "calls" 5).endings events = [(0, .returned (.ok [7]))] := rfl
  have hReturned := (resolution_safe "calls" 5 events).returned 0 [7]
    (hEndings ▸ List.mem_singleton_self _)
  obtain ⟨before, message, now, after, hEvents, hResolves, hPayload, _⟩ := hReturned
  exact ⟨hEndings, before, message, now, after, hEvents, hResolves, hPayload⟩

end Manager

end RobotBus.Calls
