import RobotBus.Proofs.Calls.Numbering

/-!
# Numbers that are given out again

A reply takes the entry of its call off, and with it frees the number of the call, although the call
has not ended before it is looked after. When all other numbers have been given out in between, the
same number goes to a new call, and the end of the old call removes the entry of the new one
(`not_always_apart`).

That takes as many calls as there are numbers, all of which begin while the old one is in progress.
In a run without such a call (`Paced`), numbers tell calls apart: `calls_keep_apart` says that each
call keeps its entry until its reply or its end, and that no call is closed.
-/

namespace RobotBus.Calls.Manager

variable {manager : Manager} {number other : Nat} {call found : Call}

/-- A call gets the number that is next, if it is free. -/
theorem step_invoke_of_free (hNext : manager.pending.next = UInt32.ofNat manager.started)
    (hFree : manager.pending.get? (UInt32.ofNat manager.started) = none) (target : String)
    (arguments : Bytes) (timeout : Duration) (now : Moment) :
    manager.step (.invoke target arguments timeout now) =
      manager.beginning target timeout now := by
  have hContains : manager.pending.invocations.contains (UInt32.ofNat manager.started) = false := by
    rw [Bindings.contains, Option.isSome_eq_false_iff, Option.isNone_iff_eq_none]
    exact hFree
  rw [step, begin, Pending.register, hNext, Pending.freeId?, hContains]
  rfl

/-- Every call that has not ended has its own number and, until its reply has come, its own entry. -/
structure Apart (manager : Manager) : Prop extends Sound manager where
  next : manager.pending.next = UInt32.ofNat manager.started
  ids : ∀ number call, manager.calls.get? number = some call → call.id = UInt32.ofNat number
  recent : ∀ number call, manager.calls.get? number = some call →
    manager.started ≤ number + UInt32.size
  entry : ∀ number call, manager.calls.get? number = some call →
    (∀ result, call.channel ≠ .answered result) →
    ∃ invocation, manager.pending.get? call.id = some invocation ∧ invocation.call = number

namespace Apart

theorem unique (h : Apart manager) (hCall : manager.calls.get? number = some call)
    (hFound : manager.calls.get? other = some found) (hId : call.id = found.id) :
    number = other := by
  have hNumber := h.started number call hCall
  have hOther := h.started other found hFound
  have hRecent := h.recent number call hCall
  have hRecentOther := h.recent other found hFound
  refine eq_of_ofNat (by omega) (by omega) ?_
  rw [← h.ids number call hCall, ← h.ids other found hFound, hId]

/-- No call has lost its entry before its reply. -/
theorem ne_closed (h : Apart manager) (hCall : manager.calls.get? number = some call) :
    call.channel ≠ .closed := by
  intro hClosed
  obtain ⟨invocation, hEntry, hNumber⟩ := h.entry number call hCall (by rw [hClosed]; nofun)
  obtain ⟨waiting, hWaiting, _, hChannel⟩ := h.waiting _ invocation hEntry
  rw [hNumber, hCall] at hWaiting
  cases hWaiting
  rw [hClosed] at hChannel
  cases hChannel

theorem start (endpoint : String) (timeout : Duration) : Apart (start endpoint timeout) where
  toSound := sound_start endpoint timeout
  next := rfl
  ids := nofun
  recent := nofun
  entry := nofun

/-! ### Beginning -/

/-- The number of the next call belongs to nobody, if all calls in progress have begun lately. -/
theorem step_invoke (h : Apart manager)
    (hRecent : ∀ number call, manager.calls.get? number = some call →
      manager.started < number + UInt32.size)
    (target : String) (arguments : Bytes) (timeout : Duration) (now : Moment) :
    manager.step (.invoke target arguments timeout now) =
      manager.beginning target timeout now := by
  refine step_invoke_of_free h.next ?_ target arguments timeout now
  cases hEntry : manager.pending.get? (UInt32.ofNat manager.started) with
  | none => rfl
  | some invocation =>
    obtain ⟨owner, hOwner, hId, _⟩ := h.waiting _ invocation hEntry
    have hStarted := h.started _ owner hOwner
    have hLately := hRecent _ owner hOwner
    rw [h.ids _ owner hOwner] at hId
    have hSame := eq_of_ofNat (by omega) hLately hId
    omega

theorem beginning (h : Apart manager)
    (hRecent : ∀ number call, manager.calls.get? number = some call →
      manager.started < number + UInt32.size)
    (target : String) (timeout : Duration) (now : Moment) :
    Apart (manager.beginning target timeout now) := by
  have hSound := h.toSound.invoke target [] timeout now
  rw [h.step_invoke hRecent] at hSound
  have hCases : ∀ number call, (manager.beginning target timeout now).calls.get? number =
      some call → number = manager.started ∧ call.id = UInt32.ofNat manager.started ∨
        number < manager.started ∧ manager.calls.get? number = some call := by
    intro number call hCall
    rw [Manager.beginning, Bindings.get?_insert] at hCall
    split at hCall
    · rename_i hNumber
      cases hCall
      exact .inl ⟨hNumber.symm, rfl⟩
    · exact .inr ⟨h.started number call hCall, hCall⟩
  refine ⟨hSound, ?_, ?_, ?_, ?_⟩
  · exact (UInt32.ofNat_add manager.started 1).symm
  · intro number call hCall
    rcases hCases number call hCall with ⟨rfl, hId⟩ | ⟨_, hOld⟩
    · exact hId
    · exact h.ids number call hOld
  · intro number call hCall
    show manager.started + 1 ≤ number + UInt32.size
    rcases hCases number call hCall with ⟨rfl, _⟩ | ⟨_, hOld⟩
    · exact Nat.add_le_add_left (by decide) _
    · exact hRecent number call hOld
  · intro number call hCall hChannel
    rcases hCases number call hCall with ⟨rfl, hId⟩ | ⟨hBefore, hOld⟩
    · rw [hId]
      exact (awaits_beginning manager target timeout now).registered rfl
    · obtain ⟨invocation, hEntry, hNumber⟩ := h.entry number call hOld hChannel
      refine ⟨invocation, ?_, hNumber⟩
      have hOther : UInt32.ofNat manager.started ≠ call.id := by
        intro hSame
        have hLately := hRecent number call hOld
        rw [h.ids number call hOld] at hSame
        have := eq_of_ofNat hLately (by omega) hSame
        omega
      exact (Bindings.get?_insert ..).trans ((if_neg hOther).trans hEntry)

/-! ### Messages -/

theorem message (h : Apart manager) (message : Message) (now : Moment) :
    Apart (manager.step (.message message now)) := by
  have hSound := h.toSound.message message now
  by_cases hHits : ∃ id invocation, manager.Hits message id invocation
  · obtain ⟨id, invocation, hHits⟩ := hHits
    obtain ⟨answered, hAnswered, hId, _, hStep⟩ := h.toSound.receive_of_hits hHits now
    rw [step, hStep] at hSound ⊢
    have hCases : ∀ number call, (manager.calls.insert invocation.call
        { answered with channel := .answered (message.payload.drop 1) }).get? number = some call →
          number = invocation.call ∧
            call = { answered with channel := .answered (message.payload.drop 1) } ∨
          number ≠ invocation.call ∧ manager.calls.get? number = some call := by
      intro number call hCall
      rw [Bindings.get?_insert] at hCall
      split at hCall
      · rename_i hNumber
        cases hCall
        exact .inl ⟨hNumber.symm, rfl⟩
      · rename_i hNumber
        exact .inr ⟨Ne.symm hNumber, hCall⟩
    refine ⟨hSound, h.next, ?_, ?_, ?_⟩
    · intro number call hCall
      rcases hCases number call hCall with ⟨rfl, rfl⟩ | ⟨_, hOld⟩
      · exact h.ids _ answered hAnswered
      · exact h.ids number call hOld
    · intro number call hCall
      rcases hCases number call hCall with ⟨rfl, rfl⟩ | ⟨_, hOld⟩
      · exact h.recent _ answered hAnswered
      · exact h.recent number call hOld
    · intro number call hCall hChannel
      rcases hCases number call hCall with ⟨rfl, rfl⟩ | ⟨hNumber, hOld⟩
      · exact absurd rfl (hChannel _)
      · obtain ⟨own, hEntry, hOwn⟩ := h.entry number call hOld hChannel
        have hOther : id ≠ call.id := fun hSame =>
          hNumber (h.unique hOld hAnswered (hSame.symm.trans hId.symm))
        exact ⟨own, (Bindings.get?_erase ..).trans ((if_neg hOther).trans hEntry), hOwn⟩
  · have hSame : manager.step (.message message now) = manager :=
      receive_of_not_hits now fun id invocation hHit => hHits ⟨id, invocation, hHit⟩
    rw [hSame]
    exact h

/-! ### Ending -/

/-- The end of a call leaves the others as they are. -/
theorem get?_finish (h : Apart manager) (hOther : other ≠ number) :
    (manager.finish number).calls.get? other = manager.calls.get? other := by
  rcases manager.get?_finish_other hOther with
    hSame | ⟨ended, invocation, found, hEnded, hEntry, hOwner, hFound, _⟩
  · exact hSame
  · obtain ⟨owner, hOwnerCall, hId, _⟩ := h.waiting _ invocation hEntry
    rw [hOwner] at hOwnerCall
    exact absurd (h.unique hOwnerCall hEnded hId) hOther

/-- The end of a call leaves the entries of the others as they are. -/
theorem pending_finish (h : Apart manager) (hOther : other ≠ number)
    (hFound : manager.calls.get? other = some found) :
    (manager.finish number).pending.get? found.id = manager.pending.get? found.id := by
  cases hEnded : manager.calls.get? number with
  | none => rw [finish_of_none hEnded]
  | some ended =>
    have hId : ended.id ≠ found.id := fun hSame => hOther (h.unique hFound hEnded hSame.symm)
    rw [Manager.pending_finish hEnded]
    exact (Bindings.get?_erase ..).trans (if_neg hId)

theorem finish (h : Apart manager) (number : Nat) : Apart (manager.finish number) := by
  have hOld : ∀ other found, (manager.finish number).calls.get? other = some found →
      other ≠ number ∧ manager.calls.get? other = some found := by
    intro other found hFound
    have hOther : other ≠ number := by
      rintro rfl
      rw [get?_finish_self] at hFound
      cases hFound
    rw [h.get?_finish hOther] at hFound
    exact ⟨hOther, hFound⟩
  refine ⟨h.toSound.finish number, ?_, ?_, ?_, ?_⟩
  · rw [started_finish, ← h.next, Manager.finish]
    cases manager.calls.get? number <;> rfl
  · intro other found hFound
    exact h.ids other found (hOld other found hFound).2
  · intro other found hFound
    rw [started_finish]
    exact h.recent other found (hOld other found hFound).2
  · intro other found hFound hChannel
    obtain ⟨hOther, hBefore⟩ := hOld other found hFound
    rw [h.pending_finish hOther hBefore]
    exact h.entry other found hBefore hChannel

theorem poll (h : Apart manager) (number : Nat) (now : Moment) :
    Apart (manager.poll number now).1 := by
  rcases manager.poll_cases number now with ⟨hSame, _⟩ | ⟨_, _, _, _, hFinish, _⟩
  · rw [hSame]
    exact h
  · rw [hFinish]
    exact h.finish number

/-- No call returns that it was dropped. -/
theorem poll_ne_nodeDropped (h : Apart manager) (number : Nat) (now : Moment) :
    (manager.poll number now).2.2 ≠ some (.error .nodeDropped) := by
  rw [Manager.poll]
  cases hCall : manager.calls.get? number with
  | none => exact (Option.some_ne_none _).symm
  | some call =>
    simp only
    cases hChannel : call.channel with
    | answered result =>
      intro hReturned
      cases hReturned
    | closed => exact absurd hChannel (h.ne_closed hCall)
    | waiting =>
      simp only
      split
      · intro hReturned
        cases hReturned
      · exact (Option.some_ne_none _).symm

end Apart

/-! ## Runs -/

/-- A run in which no call is in progress while as many others begin as there are numbers. -/
def Paced (manager : Manager) : List Event → Prop
  | [] => True
  | event :: events =>
    (∀ target arguments timeout now, event = .invoke target arguments timeout now →
      ∀ number call, manager.calls.get? number = some call →
        manager.started < number + UInt32.size) ∧
    (manager.step event).Paced events

theorem Apart.step (h : Apart manager) {event : Event}
    (hRecent : ∀ target arguments timeout now, event = .invoke target arguments timeout now →
      ∀ number call, manager.calls.get? number = some call →
        manager.started < number + UInt32.size) :
    Apart (manager.step event) := by
  cases event with
  | invoke target arguments timeout now =>
    rw [h.step_invoke (hRecent _ _ _ _ rfl)]
    exact h.beginning (hRecent _ _ _ _ rfl) target timeout now
  | message message now => exact h.message message now
  | poll number now => exact h.poll number now
  | cancel number => exact h.finish number

theorem Apart.run (h : Apart manager) {events : List Event} (hPaced : manager.Paced events) :
    Apart (manager.run events) := by
  induction events generalizing manager with
  | nil => exact h
  | cons event events ih => exact ih (h.step hPaced.1) hPaced.2

theorem Apart.endings_ne_nodeDropped (h : Apart manager) {events : List Event}
    (hPaced : manager.Paced events) (number : Nat) :
    (number, .returned (.error .nodeDropped)) ∉ manager.endings events := by
  induction events generalizing manager with
  | nil => nofun
  | cons event events ih =>
    rw [endings, List.mem_append]
    rintro (hNow | hLater)
    · cases event with
      | invoke target arguments timeout now => cases hNow
      | message message now => cases hNow
      | poll polled now =>
        rw [Option.mem_toList, ending?, Option.map_eq_some_iff] at hNow
        obtain ⟨outcome, hOutcome, hEnding⟩ := hNow
        cases hEnding
        exact h.poll_ne_nodeDropped _ now hOutcome
      | cancel ended =>
        rw [Option.mem_toList, ending?] at hNow
        split at hNow
        · cases hNow
        · cases hNow
    · exact ih (h.step hPaced.1) hPaced.2 hLater

theorem started_step_le (h : Sound manager) (event : Event) :
    (manager.step event).started ≤ manager.started + 1 := by
  cases event with
  | invoke target arguments timeout now =>
    rcases step_invoke manager target arguments timeout now with
      hStep | ⟨_, _, _, _, _, _, hStep⟩
    · exact Nat.le_succ_of_le (Nat.le_of_eq (congrArg started hStep))
    · exact Nat.le_of_eq (congrArg started hStep)
  | message message now => exact Nat.le_succ_of_le (Nat.le_of_eq (h.started_receive message now))
  | poll number now => exact Nat.le_succ_of_le (Nat.le_of_eq (started_poll manager number now))
  | cancel number => exact Nat.le_succ_of_le (Nat.le_of_eq (started_finish manager number))

/-- A run with fewer events than there are numbers is paced. -/
theorem paced_of_few (h : Sound manager) {events : List Event}
    (hFew : manager.started + events.length ≤ UInt32.size) : manager.Paced events := by
  induction events generalizing manager with
  | nil => trivial
  | cons event events ih =>
    rw [List.length_cons] at hFew
    refine ⟨?_, ih (h.step event) ?_⟩
    · intro _ _ _ _ _ number call _
      omega
    · have hStarted := started_step_le h event
      omega

/-- **Calls do not disturb each other**, as long as none is in progress while as many others begin as
there are numbers. Each call has its own entry until its reply comes or it ends, the end of a call
leaves the entries of all others, and no call returns that it was dropped. -/
theorem calls_keep_apart (endpoint : String) (timeout : Duration) (events : List Event)
    (hPaced : (start endpoint timeout).Paced events) :
    let manager := (start endpoint timeout).run events
    (∀ number call, manager.calls.get? number = some call →
      (∀ result, call.channel ≠ .answered result) →
      ∃ invocation, manager.pending.get? call.id = some invocation ∧
        invocation.call = number) ∧
    (∀ number other call, other ≠ number → manager.calls.get? other = some call →
      (manager.finish number).pending.get? call.id = manager.pending.get? call.id) ∧
    ∀ number, (number, .returned (.error .nodeDropped)) ∉
      (start endpoint timeout).endings events := by
  intro manager
  have hApart : Apart manager := (Apart.start endpoint timeout).run hPaced
  refine ⟨hApart.entry, ?_, (Apart.start endpoint timeout).endings_ne_nodeDropped hPaced⟩
  intro number other call hOther hCall
  exact hApart.pending_finish hOther hCall

/-- A call that was answered and ends after another one has begun leaves that one its entry. -/
theorem late_end_leaves_entry :
    let events : List Event :=
      [.invoke "lamp" [] 1 0, .message (replyTo 0 none [7]) 0, .invoke "lamp" [] 1 0, .poll 0 0]
    let manager := (start defaultEndpoint 1).run events
    (start defaultEndpoint 1).endings events = [(0, .returned (.ok [7]))] ∧
      ∃ invocation, manager.pending.get? 1 = some invocation ∧ invocation.call = 1 := by
  intro events manager
  have hPaced : (start defaultEndpoint 1).Paced events :=
    paced_of_few (sound_start defaultEndpoint 1) (by decide)
  have hCall : ∃ call, manager.calls.get? 1 = some call ∧ call.id = 1 ∧
      call.channel = .waiting := by
    exact ⟨_, rfl, rfl, rfl⟩
  obtain ⟨call, hKnown, hId, hWaits⟩ := hCall
  have hEntry := (calls_keep_apart defaultEndpoint 1 events hPaced).1 1 call hKnown
    (by rw [hWaits]; nofun)
  rw [hId] at hEntry
  exact ⟨rfl, hEntry⟩

/-! ## A number that comes back -/

/-- Calls that begin and are given up at once. `first` is the first of them. -/
def rounds (first : Nat) : Nat → List Event
  | 0 => []
  | count + 1 => .invoke "lamp" [] 0 0 :: .cancel first :: rounds (first + 1) count

/-- The first call has the number zero, was answered and is not looked after. No call waits. -/
structure Stale (manager : Manager) : Prop extends Sound manager where
  begun : 0 < manager.started
  next : manager.pending.next = UInt32.ofNat manager.started
  idle : ∀ id, manager.pending.get? id = none
  old : ∃ call result, manager.calls.get? 0 = some call ∧ call.id = 0 ∧
    call.channel = .answered result

namespace Stale

theorem step_invoke (h : Stale manager) (target : String) (arguments : Bytes)
    (timeout : Duration) (now : Moment) :
    manager.step (.invoke target arguments timeout now) =
      manager.beginning target timeout now :=
  step_invoke_of_free h.next (h.idle _) target arguments timeout now

/-- What is registered when a call has begun. -/
theorem get?_beginning (h : Stale manager) (target : String) (timeout : Duration) (now : Moment)
    (id : InvocationId) : (manager.beginning target timeout now).pending.get? id =
      if UInt32.ofNat manager.started = id then some ⟨manager.started, target, now⟩ else none := by
  rw [← h.idle id]
  exact Bindings.get?_insert ..

theorem round (h : Stale manager) :
    Stale (manager.run [.invoke "lamp" [] 0 0, .cancel manager.started]) ∧
      (manager.run [.invoke "lamp" [] 0 0, .cancel manager.started]).started =
        manager.started + 1 := by
  have hRun : manager.run [.invoke "lamp" [] 0 0, .cancel manager.started] =
      (manager.beginning "lamp" 0 0).finish manager.started := by
    rw [← h.step_invoke "lamp" [] 0 0]
    rfl
  have hNew := (awaits_beginning manager "lamp" 0 0).known
  have hStarted : ((manager.beginning "lamp" 0 0).finish manager.started).started =
      manager.started + 1 :=
    started_finish _ _
  have hPending := pending_finish hNew
  rw [hRun]
  refine ⟨⟨?_, ?_, ?_, ?_, ?_⟩, hStarted⟩
  · rw [← hRun]
    exact h.toSound.run _
  · rw [hStarted]
    exact Nat.succ_pos _
  · rw [hStarted, hPending]
    exact (UInt32.ofNat_add manager.started 1).symm
  · intro id
    rw [hPending]
    refine (Bindings.get?_erase ..).trans ?_
    split
    · rfl
    · rename_i hId
      exact (h.get?_beginning "lamp" 0 0 id).trans (if_neg hId)
  · obtain ⟨call, result, hCall, hId, hAnswered⟩ := h.old
    refine ⟨call, result, ?_, hId, hAnswered⟩
    have hOther : 0 ≠ manager.started := Nat.ne_of_lt h.begun
    rcases (manager.beginning "lamp" 0 0).get?_finish_other hOther with
      hSame | ⟨ended, invocation, _, hEnded, hEntry, hOwner, _⟩
    · rw [hSame]
      exact (Bindings.get?_insert ..).trans ((if_neg hOther.symm).trans hCall)
    · -- the entry of the call that ends is its own
      cases hNew.symm.trans hEnded
      rw [h.get?_beginning, if_pos rfl] at hEntry
      cases hEntry
      exact absurd hOwner.symm hOther

theorem run_rounds (h : Stale manager) (count : Nat) :
    Stale (manager.run (rounds manager.started count)) ∧
      (manager.run (rounds manager.started count)).started = manager.started + count := by
  induction count generalizing manager with
  | zero => exact ⟨h, rfl⟩
  | succ count ih =>
    obtain ⟨hNext, hStarted⟩ := h.round
    have hRest := ih hNext
    rw [hStarted] at hRest
    rw [rounds]
    refine ⟨hRest.1, hRest.2.trans ?_⟩
    omega

/-- When the number of the first call has come back, its end closes the new call. -/
theorem closes_new (h : Stale manager) (hBack : UInt32.ofNat manager.started = 0) :
    ∃ call, (manager.run [.invoke "lamp" [] 1 0, .poll 0 0]).calls.get? manager.started =
        some call ∧ call.channel = .closed ∧
      (manager.run [.invoke "lamp" [] 1 0, .poll 0 0]).pending.get? call.id = none := by
  obtain ⟨old, result, hOld, hId, hAnswered⟩ := h.old
  have hOther : manager.started ≠ 0 := Nat.ne_of_gt h.begun
  have hKnown : (manager.beginning "lamp" 1 0).calls.get? 0 = some old :=
    (Bindings.get?_insert ..).trans ((if_neg hOther).trans hOld)
  have hRun : manager.run [.invoke "lamp" [] 1 0, .poll 0 0] =
      (manager.beginning "lamp" 1 0).finish 0 := by
    show ((manager.step (.invoke "lamp" [] 1 0)).poll 0 0).1 = _
    rw [h.step_invoke, poll, hKnown]
    simp only [hAnswered]
  have hNew := (awaits_beginning manager "lamp" 1 0).known
  have hEntry := h.get?_beginning "lamp" 1 0 old.id
  rw [hId, hBack, if_pos rfl] at hEntry
  rw [hRun, pending_finish hKnown, hId]
  refine ⟨⟨UInt32.ofNat manager.started, "lamp", 1, 0 + 1, .closed⟩, ?_, rfl, ?_⟩
  · simp only [finish, hKnown, hId, hEntry]
    rw [Bindings.get?_modify, if_pos rfl, Bindings.get?_erase, if_neg hOther.symm, hNew]
    rfl
  · rw [hBack]
    exact (Bindings.get?_erase ..).trans (if_pos rfl)

end Stale

theorem run_append (manager : Manager) (events events' : List Event) :
    manager.run (events ++ events') = (manager.run events).run events' :=
  List.foldl_append

/-- A call that is answered at once, as many calls as there are other numbers, one more call, and the
end of the first one. -/
def comeback : List Event :=
  [.invoke "lamp" [] 1 0, .message (replyTo 0 none [7]) 0] ++
    rounds 1 (UInt32.size - 1) ++ [.invoke "lamp" [] 1 0, .poll 0 0]

theorem stale_answered :
    Stale ((start defaultEndpoint 1).run
      [.invoke "lamp" [] 1 0, .message (replyTo 0 none [7]) 0]) where
  toSound := (sound_start defaultEndpoint 1).run _
  begun := by decide +kernel
  next := by decide +kernel
  idle _ := rfl
  old := ⟨_, [7], rfl, rfl, rfl⟩

/-- A call that waits can lose its entry, and returns that it was dropped. -/
theorem not_always_apart :
    let manager := (start defaultEndpoint 1).run comeback
    ∃ call, manager.calls.get? UInt32.size = some call ∧
      (∀ result, call.channel ≠ .answered result) ∧
      manager.pending.get? call.id = none ∧
      (manager.poll UInt32.size 0).2.2 = some (.error .nodeDropped) := by
  intro manager
  have hOne : ((start defaultEndpoint 1).run
      [.invoke "lamp" [] 1 0, .message (replyTo 0 none [7]) 0]).started = 1 := by
    decide +kernel
  obtain ⟨hStale, hStarted⟩ := stale_answered.run_rounds (UInt32.size - 1)
  rw [hOne] at hStale hStarted
  have hSize : 1 + (UInt32.size - 1) = UInt32.size := by
    decide
  rw [hSize] at hStarted
  obtain ⟨call, hCall, hClosed, hEntry⟩ :=
    hStale.closes_new (by rw [hStarted]; decide)
  have hRun : manager = (((start defaultEndpoint 1).run
      [.invoke "lamp" [] 1 0, .message (replyTo 0 none [7]) 0]).run
        (rounds 1 (UInt32.size - 1))).run [.invoke "lamp" [] 1 0, .poll 0 0] := by
    rw [← run_append, ← run_append]
    rfl
  rw [hStarted, ← hRun] at hCall
  rw [← hRun] at hEntry
  refine ⟨call, hCall, by rw [hClosed]; nofun, hEntry, ?_⟩
  rw [poll, hCall]
  simp only [hClosed]

end RobotBus.Calls.Manager
