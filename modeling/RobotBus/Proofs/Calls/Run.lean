import RobotBus.Calls.Manager
import RobotBus.Proofs.Calls.InvocationPath
import RobotBus.Proofs.Calls.Registration

/-!
# Runs of a call manager

Whatever happens to a manager is one of four events: a call begins, a message reaches the endpoint,
a call is looked after, or it is given up. `step` is what an event makes of a manager, and `ending?`
is the call that it ends. The events of a run come in any order, at any time and for any call.

`Sound` is what holds throughout: every entry of the pending invocations is that of a call that
still waits, and is registered under the number of that call. It survives also when the numbers
start again from zero while an old call still has the number of a new one.
-/

namespace RobotBus.Calls

inductive Event
  | invoke (target : String) (arguments : Bytes) (timeout : Duration) (now : Moment)
  | message (message : Message) (now : Moment)
  | poll (call : Nat) (now : Moment)
  | cancel (call : Nat)
deriving DecidableEq, Repr

inductive Ending
  | returned (outcome : Outcome)
  | cancelled

/-- A result is returned for an answered call only, and nothing else is returned for it. -/
def Ending.Fits : Channel → Ending → Prop
  | .answered result, .returned outcome => outcome = .ok result
  | .waiting, .returned outcome | .closed, .returned outcome => ∃ cause, outcome = .error cause
  | _, .cancelled => True

namespace Manager

/-! ## Steps -/

/-- A manager that has not invoked anything. -/
def start (endpoint : String) (timeout : Duration) : Manager :=
  { endpoint, defaultTimeout := timeout }

def step (manager : Manager) : Event → Manager
  | .invoke target arguments timeout now =>
    ((manager.begin target arguments timeout now).map (·.manager)).getD manager
  | .message message now => (manager.receive message now).1
  | .poll call now => (manager.poll call now).1
  | .cancel call => manager.finish call

/-- The call that an event ends, and how. -/
def ending? (manager : Manager) : Event → Option (Nat × Ending)
  | .poll call now => (manager.poll call now).2.2.map fun outcome => (call, .returned outcome)
  | .cancel call => if manager.calls.contains call then some (call, .cancelled) else none
  | .invoke .. | .message .. => none

def run (manager : Manager) (events : List Event) : Manager :=
  events.foldl step manager

/-- All calls that end in a run, in order. -/
def endings (manager : Manager) : List Event → List (Nat × Ending)
  | [] => []
  | event :: events => (manager.ending? event).toList ++ (manager.step event).endings events

/-- A message is a reply, its target is the number of a call, and the entry of that call is
pending. -/
def Resolves (manager : Manager) (number : Nat) (message : Message) : Prop :=
  Payload.tag? message.payload = some .invokeReply ∧
    ∃ path ∈ message.target, ∃ call ∈ manager.calls.get? number, InvocationId.Denotes path call.id ∧
      ∃ invocation ∈ manager.pending.get? call.id, invocation.call = number

instance (manager : Manager) (number : Nat) (message : Message) :
    Decidable (manager.Resolves number message) :=
  inferInstanceAs (Decidable (_ ∧ ∃ path ∈ message.target, ∃ call ∈ manager.calls.get? number,
    InvocationId.Denotes path call.id ∧
      ∃ invocation ∈ manager.pending.get? call.id, invocation.call = number))

/-! ## What holds throughout -/

/-- Every pending entry is that of a call that waits, and every call that is known was started. -/
structure Sound (manager : Manager) : Prop where
  waiting : ∀ id invocation, manager.pending.get? id = some invocation →
    ∃ call, manager.calls.get? invocation.call = some call ∧ call.id = id ∧ call.channel = .waiting
  started : ∀ number call, manager.calls.get? number = some call → number < manager.started

variable {manager : Manager}

theorem sound_start (endpoint : String) (timeout : Duration) :
    Sound (start endpoint timeout) where
  waiting := nofun
  started := nofun

/-! ### Beginning -/

/-- A call that begins waits for its reply under a number that nobody else has. -/
theorem step_invoke (manager : Manager) (target : String) (arguments : Bytes) (timeout : Duration)
    (now : Moment) :
    manager.step (.invoke target arguments timeout now) = manager ∨
      ∃ (call : Call) (invocation : Invocation) (next : InvocationId), call.channel = .waiting ∧
        invocation.call = manager.started ∧ manager.pending.get? call.id = none ∧
        manager.step (.invoke target arguments timeout now) =
          { manager with
            pending := ⟨next, manager.pending.invocations.insert call.id invocation⟩
            calls := manager.calls.insert manager.started call
            started := manager.started + 1 } := by
  rw [step, begin, Pending.register]
  cases hFree : Pending.freeId? manager.pending.invocations
      (manager.pending.invocations.size + 1) manager.pending.next with
  | none => exact .inl rfl
  | some id =>
    obtain ⟨steps, _, hSearch⟩ := Pending.freeId?_eq_some_iff.1 hFree
    exact .inr ⟨{ id, target, timeout, deadline := now + timeout },
      ⟨manager.started, target, now⟩, id + 1, rfl, rfl, hSearch.get?_eq_none, rfl⟩

theorem Sound.get?_started (h : Sound manager) : manager.calls.get? manager.started = none := by
  cases hCall : manager.calls.get? manager.started with
  | none => rfl
  | some call => exact absurd (h.started _ _ hCall) (Nat.lt_irrefl _)

theorem Sound.invoke (h : Sound manager) (target : String) (arguments : Bytes)
    (timeout : Duration) (now : Moment) :
    Sound (manager.step (.invoke target arguments timeout now)) := by
  rcases step_invoke manager target arguments timeout now with
    hStep | ⟨call, invocation, next, hChannel, hCall, _, hStep⟩
  · rw [hStep]
    exact h
  · rw [hStep]
    constructor
    · intro id entry hEntry
      change (manager.pending.invocations.insert call.id invocation).get? id = _ at hEntry
      change ∃ found, (manager.calls.insert manager.started call).get? entry.call = _ ∧ _
      rw [Bindings.get?_insert] at hEntry
      rw [Bindings.get?_insert]
      split at hEntry
      · rename_i hId
        cases hEntry
        exact ⟨call, if_pos hCall.symm, hId, hChannel⟩
      · obtain ⟨found, hFound, hWaits⟩ := h.waiting id entry hEntry
        have hOther : manager.started ≠ entry.call := fun hSame =>
          Nat.lt_irrefl _ (hSame ▸ h.started _ _ hFound)
        exact ⟨found, by rw [if_neg hOther]; exact hFound, hWaits⟩
    · intro number found hFound
      change (manager.calls.insert manager.started call).get? number = _ at hFound
      change number < manager.started + 1
      rw [Bindings.get?_insert] at hFound
      split at hFound
      · omega
      · exact Nat.lt_succ_of_lt (h.started _ _ hFound)

/-! ### Messages -/

/-- The entry that a message takes off: that of a reply whose target has its number. -/
def Hits (manager : Manager) (message : Message) (id : InvocationId) (invocation : Invocation) :
    Prop :=
  Payload.tag? message.payload = some .invokeReply ∧
    (∃ path, message.target = some path ∧ InvocationId.Denotes path id) ∧
    manager.pending.get? id = some invocation

theorem Hits.unique {message : Message} {id id' : InvocationId}
    {invocation invocation' : Invocation} (h : manager.Hits message id invocation)
    (h' : manager.Hits message id' invocation') :
    invocation = invocation' := by
  obtain ⟨_, ⟨path, hTarget, hDenotes⟩, hEntry⟩ := h
  obtain ⟨_, ⟨path', hTarget', hDenotes'⟩, hEntry'⟩ := h'
  cases hTarget.symm.trans hTarget'
  have hId := InvocationId.ofPath?_eq_some_iff.2 hDenotes
  cases hId.symm.trans (InvocationId.ofPath?_eq_some_iff.2 hDenotes')
  exact Option.some.inj (hEntry.symm.trans hEntry')

/-- A message that hits no entry changes nothing. -/
theorem receive_of_not_hits {message : Message} (now : Moment)
    (h : ∀ id invocation, ¬manager.Hits message id invocation) :
    (manager.receive message now).1 = manager := by
  rw [receive]
  cases hTarget : message.target with
  | none => rfl
  | some path =>
    simp only
    split
    · rfl
    · cases hId : InvocationId.ofPath? path with
      | none => rfl
      | some id =>
        simp only [receiveFor]
        split
        · rename_i hTag
          cases hEntry : manager.pending.get? id with
          | none => rfl
          | some invocation =>
            exact absurd ⟨hTag, ⟨path, hTarget, InvocationId.ofPath?_eq_some_iff.1 hId⟩, hEntry⟩
              (h id invocation)
        · cases manager.pending.get? id with
          | none => rfl
          | some invocation => rfl
        · rfl

theorem ofPath?_everyone : InvocationId.ofPath? Path.everyone = none := by
  decide

/-- A message that hits an entry takes it off, and its call has the result. -/
theorem Sound.receive_of_hits (hSound : Sound manager) {message : Message} {id : InvocationId}
    {invocation : Invocation} (h : manager.Hits message id invocation) (now : Moment) :
    ∃ call, manager.calls.get? invocation.call = some call ∧ call.id = id ∧
      call.channel = .waiting ∧
      (manager.receive message now).1 =
        { manager with
          pending := manager.pending.remove id
          calls := manager.calls.insert invocation.call
            { call with channel := .answered (message.payload.drop 1) } } := by
  obtain ⟨hTag, ⟨path, hTarget, hDenotes⟩, hEntry⟩ := h
  have hId := InvocationId.ofPath?_eq_some_iff.2 hDenotes
  obtain ⟨call, hCall, hNumber, hWaits⟩ := hSound.waiting id invocation hEntry
  refine ⟨call, hCall, hNumber, hWaits, ?_⟩
  have hDirect : path ≠ Path.everyone := by
    rintro rfl
    rw [ofPath?_everyone] at hId
    cases hId
  simp only [receive, hTarget, if_neg hDirect, hId, receiveFor, hTag, hEntry, answer, hCall, hWaits,
    if_true]

theorem resolves_iff (hSound : Sound manager) {number : Nat} {message : Message} :
    manager.Resolves number message ↔
      ∃ id invocation, manager.Hits message id invocation ∧ invocation.call = number := by
  constructor
  · rintro ⟨hTag, path, hTarget, call, _, hDenotes, invocation, hEntry, hNumber⟩
    exact ⟨call.id, invocation, ⟨hTag, ⟨path, hTarget, hDenotes⟩, hEntry⟩, hNumber⟩
  · rintro ⟨id, invocation, ⟨hTag, ⟨path, hTarget, hDenotes⟩, hEntry⟩, rfl⟩
    obtain ⟨call, hCall, rfl, _⟩ := hSound.waiting id invocation hEntry
    exact ⟨hTag, path, hTarget, call, hCall, hDenotes, invocation, hEntry, rfl⟩

theorem Sound.message (h : Sound manager) (message : Message) (now : Moment) :
    Sound (manager.step (.message message now)) := by
  by_cases hHits : ∃ id invocation, manager.Hits message id invocation
  · obtain ⟨id, invocation, hHits⟩ := hHits
    obtain ⟨call, hCall, hNumber, _, hStep⟩ := h.receive_of_hits hHits now
    change Sound (manager.receive message now).1
    rw [hStep]
    constructor
    · intro other entry hEntry
      change (manager.pending.invocations.erase id).get? other = _ at hEntry
      rw [Bindings.get?_erase] at hEntry
      split at hEntry
      · cases hEntry
      · rename_i hOther
        obtain ⟨found, hFound, hId, hWaits⟩ := h.waiting other entry hEntry
        have hCalls : invocation.call ≠ entry.call := by
          intro hSame
          rw [← hSame, hCall] at hFound
          cases hFound
          exact hOther (hNumber.symm.trans hId)
        refine ⟨found, ?_, hId, hWaits⟩
        rw [Bindings.get?_insert, if_neg hCalls]
        exact hFound
    · intro number found hFound
      rw [Bindings.get?_insert] at hFound
      split at hFound
      · rename_i hNumber
        exact hNumber ▸ h.started _ _ hCall
      · exact h.started _ _ hFound
  · change Sound (manager.receive message now).1
    rw [receive_of_not_hits now fun id invocation hHit => hHits ⟨id, invocation, hHit⟩]
    exact h

/-! ### Ending -/

theorem finish_of_none {number : Nat} (h : manager.calls.get? number = none) :
    manager.finish number = manager := by
  rw [finish, h]

theorem started_finish (manager : Manager) (number : Nat) :
    (manager.finish number).started = manager.started := by
  rw [finish]
  cases manager.calls.get? number <;> rfl

theorem pending_finish {number : Nat} {call : Call} (h : manager.calls.get? number = some call) :
    (manager.finish number).pending = manager.pending.remove call.id := by
  rw [finish, h]

theorem get?_finish_self (manager : Manager) (number : Nat) :
    (manager.finish number).calls.get? number = none := by
  cases hCall : manager.calls.get? number with
  | none => rw [finish_of_none hCall, hCall]
  | some call =>
    simp only [finish, hCall]
    split
    · rw [Bindings.get?_erase, if_pos rfl]
    · rw [Bindings.get?_modify, Bindings.get?_erase, if_pos rfl]
      split <;> rfl

/-- The end of a call leaves another one as it is, or closes it while it waits. It can be closed
only if its entry has the number of the call that ends. -/
theorem get?_finish_other (manager : Manager) {number other : Nat} (h : other ≠ number) :
    (manager.finish number).calls.get? other = manager.calls.get? other ∨
      ∃ ended invocation call, manager.calls.get? number = some ended ∧
        manager.pending.get? ended.id = some invocation ∧ invocation.call = other ∧
        manager.calls.get? other = some call ∧ call.channel = .waiting ∧
        (manager.finish number).calls.get? other = some { call with channel := .closed } := by
  cases hEnded : manager.calls.get? number with
  | none => exact .inl (by rw [finish_of_none hEnded])
  | some ended =>
    simp only [finish, hEnded]
    cases hEntry : manager.pending.get? ended.id with
    | none => exact .inl (by rw [Bindings.get?_erase, if_neg (Ne.symm h)])
    | some invocation =>
      simp only
      rw [Bindings.get?_modify, Bindings.get?_erase, if_neg (Ne.symm h)]
      by_cases hOther : other = invocation.call
      · subst hOther
        rw [if_pos rfl]
        cases hCall : manager.calls.get? invocation.call with
        | none => exact .inl rfl
        | some call =>
          by_cases hWaits : call.channel = .waiting
          · refine .inr ⟨ended, invocation, call, rfl, hEntry, rfl, rfl, hWaits, ?_⟩
            rw [Option.map_some, if_pos hWaits]
          · exact .inl (by rw [Option.map_some, if_neg hWaits])
      · exact .inl (if_neg hOther)

theorem Sound.finish (h : Sound manager) (number : Nat) : Sound (manager.finish number) := by
  cases hEnded : manager.calls.get? number with
  | none =>
    rw [finish_of_none hEnded]
    exact h
  | some ended =>
    constructor
    · intro id entry hEntry
      rw [pending_finish hEnded] at hEntry
      change (manager.pending.invocations.erase ended.id).get? id = _ at hEntry
      rw [Bindings.get?_erase] at hEntry
      split at hEntry
      · cases hEntry
      · rename_i hId
        obtain ⟨found, hFound, hNumber, hWaits⟩ := h.waiting id entry hEntry
        have hOther : entry.call ≠ number := by
          intro hSame
          rw [hSame, hEnded] at hFound
          cases hFound
          exact hId hNumber
        rcases get?_finish_other manager hOther with
          hSame | ⟨_, invocation, _, hCall, hOld, hOwner, _⟩
        · exact ⟨found, hSame ▸ hFound, hNumber, hWaits⟩
        · -- a call that is closed has the entry that was removed
          cases hEnded.symm.trans hCall
          obtain ⟨owner, hFoundOwner, hOwnerId, _⟩ := h.waiting _ invocation hOld
          rw [hOwner, hFound] at hFoundOwner
          cases hFoundOwner
          exact absurd (hOwnerId.symm.trans hNumber) hId
    · intro other found hFound
      rw [started_finish]
      by_cases hSelf : other = number
      · exact hSelf ▸ h.started _ _ hEnded
      · rcases get?_finish_other manager hSelf with
          hSame | ⟨_, _, call, _, _, _, hCall, _⟩
        · exact h.started _ _ (hSame ▸ hFound)
        · exact h.started _ _ hCall

/-- To look after a call changes nothing, or ends it. -/
theorem poll_cases (manager : Manager) (number : Nat) (now : Moment) :
    (manager.poll number now).1 = manager ∧ (manager.poll number now).2.2 = none ∨
      ∃ call outcome, manager.calls.get? number = some call ∧
        Ending.Fits call.channel (.returned outcome) ∧
        (manager.poll number now).1 = manager.finish number ∧
        (manager.poll number now).2.2 = some outcome := by
  rw [poll]
  cases hCall : manager.calls.get? number with
  | none => exact .inl ⟨rfl, rfl⟩
  | some call =>
    simp only
    cases hChannel : call.channel with
    | answered result => exact .inr ⟨call, .ok result, rfl, by rw [hChannel]; rfl, rfl, rfl⟩
    | closed => exact .inr ⟨call, _, rfl, by rw [hChannel]; exact ⟨_, rfl⟩, rfl, rfl⟩
    | waiting =>
      simp only
      split
      · exact .inr ⟨call, _, rfl, by rw [hChannel]; exact ⟨_, rfl⟩, rfl, rfl⟩
      · exact .inl ⟨rfl, rfl⟩

theorem Sound.step (h : Sound manager) (event : Event) : Sound (manager.step event) := by
  cases event with
  | invoke target arguments timeout now => exact h.invoke target arguments timeout now
  | message message now => exact h.message message now
  | poll number now =>
    change Sound (manager.poll number now).1
    rcases manager.poll_cases number now with ⟨hSame, _⟩ | ⟨_, _, _, _, hFinish, _⟩
    · rw [hSame]
      exact h
    · rw [hFinish]
      exact h.finish number
  | cancel number => exact h.finish number

theorem Sound.run (h : Sound manager) (events : List Event) : Sound (manager.run events) := by
  induction events generalizing manager with
  | nil => exact h
  | cons event events ih => exact ih (h.step event)

end Manager

end RobotBus.Calls
