import RobotBus.Proofs.Calls.Run

/-!
# Managers with few calls

As long as a manager has not invoked more often than there are numbers, each call has the number
that says how many calls were before it (`Numbered`), so that no two calls ever share one. `Awaits`
is what the manager knows of a call that has not ended, and each event leaves alone what it knows of
other calls (`Same`).
-/

namespace RobotBus.Calls.Manager

/-- Every call has a number of its own. -/
structure Numbered (manager : Manager) : Prop extends Sound manager where
  few : manager.started ≤ UInt32.size
  next : manager.pending.next = UInt32.ofNat manager.started
  ids : ∀ number call, manager.calls.get? number = some call → call.id = UInt32.ofNat number

/-- A call has not ended. As long as it waits, a reply with its number is its own. -/
structure Awaits (manager : Manager) (number : Nat) (target : String) (timeout : Duration)
    (deadline : Moment) (channel : Channel) : Prop where
  known : manager.calls.get? number =
    some ⟨UInt32.ofNat number, target, timeout, deadline, channel⟩
  registered : channel = .waiting → ∃ invocation,
    manager.pending.get? (UInt32.ofNat number) = some invocation ∧ invocation.call = number

/-- Two managers know the same of a call. -/
structure Same (manager manager' : Manager) (number : Nat) : Prop where
  calls : manager'.calls.get? number = manager.calls.get? number
  pending : manager'.pending.get? (UInt32.ofNat number) =
    manager.pending.get? (UInt32.ofNat number)

variable {manager manager' : Manager} {number other : Nat} {target : String} {timeout : Duration}
  {deadline : Moment} {channel : Channel}

theorem Awaits.congr (h : manager.Awaits number target timeout deadline channel)
    (hSame : manager.Same manager' number) :
    manager'.Awaits number target timeout deadline channel where
  known := hSame.calls.trans h.known
  registered hWaits := by
    rw [hSame.pending]
    exact h.registered hWaits

/-! ## Numbers -/

theorem ofNat_ne {m n : Nat} (hm : m < UInt32.size) (hn : n < UInt32.size) (h : m ≠ n) :
    UInt32.ofNat m ≠ UInt32.ofNat n :=
  fun hSame => h (eq_of_ofNat (Nat.lt_add_left n hm) (Nat.lt_add_left m hn) hSame)

theorem Numbered.lt_size (h : Numbered manager) {call : Call}
    (hCall : manager.calls.get? number = some call) : number < UInt32.size :=
  Nat.lt_of_lt_of_le (h.started number call hCall) h.few

/-- What is registered under a number is the call with this number. -/
theorem Numbered.call_eq (h : Numbered manager) (hNumber : number < UInt32.size)
    {invocation : Invocation}
    (hEntry : manager.pending.get? (UInt32.ofNat number) = some invocation) :
    invocation.call = number ∧ ∃ call, manager.calls.get? number = some call := by
  obtain ⟨call, hCall, hId, _⟩ := h.waiting _ invocation hEntry
  have hOwn := h.ids invocation.call call hCall
  have hSame : invocation.call = number := Decidable.byContradiction fun hNe =>
    ofNat_ne (h.lt_size hCall) hNumber hNe (hOwn.symm.trans hId)
  exact ⟨hSame, call, hSame ▸ hCall⟩

theorem numbered_start (endpoint : String) (timeout : Duration) :
    Numbered (start endpoint timeout) where
  toSound := sound_start endpoint timeout
  few := Nat.zero_le _
  next := rfl
  ids := nofun

/-! ## Beginning -/

/-- A manager after the beginning of a call. -/
def beginning (manager : Manager) (target : String) (timeout : Duration) (now : Moment) : Manager :=
  let id := UInt32.ofNat manager.started
  { manager with
    pending := ⟨id + 1, manager.pending.invocations.insert id ⟨manager.started, target, now⟩⟩
    calls := manager.calls.insert manager.started { id, target, timeout, deadline := now + timeout }
    started := manager.started + 1 }

theorem Numbered.begin_eq (h : Numbered manager) (hFew : manager.started < UInt32.size)
    (target : String) (arguments : Bytes) (timeout : Duration) (now : Moment) :
    manager.begin target arguments timeout now = some {
      manager := manager.beginning target timeout now
      call := manager.started
      notice := .invoking target (manager.sourceOf (UInt32.ofNat manager.started))
      message := ⟨some target, some (manager.sourceOf (UInt32.ofNat manager.started)),
        Payload.invocation arguments⟩ } := by
  have hFree : manager.pending.invocations.contains (UInt32.ofNat manager.started) = false := by
    rw [Bindings.contains, Option.isSome_eq_false_iff, Option.isNone_iff_eq_none]
    cases hEntry : manager.pending.invocations.get? (UInt32.ofNat manager.started) with
    | none => rfl
    | some invocation =>
      obtain ⟨_, call, hCall⟩ := h.call_eq hFew hEntry
      exact absurd (h.started _ _ hCall) (Nat.lt_irrefl _)
  rw [begin, Pending.register, h.next, Pending.freeId?, hFree]
  rfl

theorem Numbered.beginning (h : Numbered manager) (hFew : manager.started < UInt32.size)
    (target : String) (timeout : Duration) (now : Moment) :
    Numbered (manager.beginning target timeout now) := by
  have hSound := h.toSound.invoke target [] timeout now
  rw [step, h.begin_eq hFew] at hSound
  refine ⟨hSound, hFew, ?_, ?_⟩
  · exact (UInt32.ofNat_add manager.started 1).symm
  · intro number call hCall
    rw [Manager.beginning, Bindings.get?_insert] at hCall
    split at hCall
    · rename_i hNumber
      cases hCall
      exact congrArg UInt32.ofNat hNumber
    · exact h.ids number call hCall

theorem awaits_beginning (manager : Manager) (target : String) (timeout : Duration)
    (now : Moment) : (manager.beginning target timeout now).Awaits manager.started target timeout
      (now + timeout) .waiting where
  known := by rw [beginning, Bindings.get?_insert, if_pos rfl]
  registered _ := ⟨⟨manager.started, target, now⟩,
    (Bindings.get?_insert ..).trans (if_pos rfl), rfl⟩

theorem same_beginning (hFew : manager.started < UInt32.size)
    (target : String) (timeout : Duration) (now : Moment) (hOther : other < manager.started) :
    manager.Same (manager.beginning target timeout now) other where
  calls := (Bindings.get?_insert ..).trans (if_neg (Nat.ne_of_gt hOther))
  pending := (Bindings.get?_insert ..).trans
    (if_neg (ofNat_ne hFew (Nat.lt_trans hOther hFew) (Nat.ne_of_gt hOther)))

/-! ## Replies -/

theorem Sound.started_receive (h : Sound manager) (message : Message) (now : Moment) :
    (manager.receive message now).1.started = manager.started := by
  by_cases hHits : ∃ id invocation, manager.Hits message id invocation
  · obtain ⟨id, invocation, hHits⟩ := hHits
    obtain ⟨call, _, _, _, hReceive⟩ := h.receive_of_hits hHits now
    rw [hReceive]
  · rw [receive_of_not_hits now fun id invocation hHit => hHits ⟨id, invocation, hHit⟩]

/-- The reply to a call, as it reaches the endpoint. -/
def replyTo (number : Nat) (source : Option String) (result : Bytes) : Message :=
  ⟨some (InvocationId.toPath (UInt32.ofNat number)), source, Payload.reply result⟩

/-- A manager after the reply to a call. -/
def replied (manager : Manager) (number : Nat) (target : String) (timeout : Duration)
    (deadline : Moment) (result : Bytes) : Manager :=
  { manager with
    pending := manager.pending.remove (UInt32.ofNat number)
    calls := manager.calls.insert number
      ⟨UInt32.ofNat number, target, timeout, deadline, .answered result⟩ }

theorem Awaits.receive_reply (hSound : Sound manager)
    (h : manager.Awaits number target timeout deadline .waiting) (source : Option String)
    (result : Bytes) (now : Moment) :
    (manager.receive (replyTo number source result) now).1 =
      manager.replied number target timeout deadline result := by
  obtain ⟨invocation, hEntry, hNumber⟩ := h.registered rfl
  have hHits : manager.Hits (replyTo number source result) (UInt32.ofNat number) invocation :=
    ⟨rfl, ⟨_, rfl, InvocationId.ofPath?_eq_some_iff.1 (InvocationId.ofPath?_toPath _)⟩, hEntry⟩
  obtain ⟨call, hCall, _, _, hReceive⟩ := hSound.receive_of_hits hHits now
  rw [hNumber, h.known] at hCall
  cases hCall
  rw [hReceive, hNumber]
  rfl

/-- A reply to a call that has ended changes nothing. -/
theorem Numbered.receive_late (h : Numbered manager) (hNumber : number < UInt32.size)
    (hEnded : manager.calls.get? number = none) (source : Option String) (result : Bytes)
    (now : Moment) : (manager.receive (replyTo number source result) now).1 = manager := by
  refine receive_of_not_hits now ?_
  rintro id invocation ⟨_, ⟨path, hPath, hDenotes⟩, hEntry⟩
  cases hPath
  have hId := (InvocationId.ofPath?_toPath _).symm.trans
    (InvocationId.ofPath?_eq_some_iff.2 hDenotes)
  cases hId
  obtain ⟨_, call, hCall⟩ := h.call_eq hNumber hEntry
  rw [hEnded] at hCall
  cases hCall

theorem Numbered.replied (h : Numbered manager)
    (hAwaits : manager.Awaits number target timeout deadline .waiting) (result : Bytes) :
    Numbered (manager.replied number target timeout deadline result) := by
  have hSound := h.toSound.message (replyTo number none result) 0
  rw [step, hAwaits.receive_reply h.toSound] at hSound
  refine ⟨hSound, h.few, h.next, ?_⟩
  intro other call hCall
  rw [Manager.replied, Bindings.get?_insert] at hCall
  split at hCall
  · rename_i hNumber
    cases hCall
    exact congrArg UInt32.ofNat hNumber
  · exact h.ids other call hCall

theorem awaits_replied (manager : Manager) (number : Nat) (target : String) (timeout : Duration)
    (deadline : Moment) (result : Bytes) :
    (manager.replied number target timeout deadline result).Awaits number target timeout deadline
      (.answered result) where
  known := (Bindings.get?_insert ..).trans (if_pos rfl)
  registered := nofun

theorem same_replied (hNumber : number < UInt32.size) (hOther : other < UInt32.size)
    (hNe : other ≠ number) (target : String) (timeout : Duration) (deadline : Moment)
    (result : Bytes) :
    manager.Same (manager.replied number target timeout deadline result) other where
  calls := (Bindings.get?_insert ..).trans (if_neg hNe.symm)
  pending := (Bindings.get?_erase ..).trans (if_neg (ofNat_ne hNumber hOther hNe.symm))

/-! ## Ending -/

theorem Numbered.same_finish (h : Numbered manager) (hOther : other < UInt32.size)
    (hNe : other ≠ number) : manager.Same (manager.finish number) other := by
  cases hEnded : manager.calls.get? number with
  | none =>
    rw [finish_of_none hEnded]
    exact ⟨rfl, rfl⟩
  | some ended =>
    have hId := h.ids number ended hEnded
    constructor
    · rcases manager.get?_finish_other hNe with
        hSame | ⟨ended', invocation, _, hEnded', hEntry, hCall, _⟩
      · exact hSame
      · cases hEnded.symm.trans hEnded'
        rw [hId] at hEntry
        exact absurd (hCall.symm.trans (h.call_eq (h.lt_size hEnded) hEntry).1) hNe
    · rw [pending_finish hEnded, hId]
      exact (Bindings.get?_erase ..).trans (if_neg (ofNat_ne (h.lt_size hEnded) hOther hNe.symm))

theorem Numbered.finish (h : Numbered manager) (number : Nat) :
    Numbered (manager.finish number) where
  toSound := h.toSound.finish number
  few := by
    rw [started_finish]
    exact h.few
  next := by
    rw [started_finish, ← h.next, Manager.finish]
    cases manager.calls.get? number <;> rfl
  ids other call hCall := by
    by_cases hNe : other = number
    · rw [hNe, get?_finish_self] at hCall
      cases hCall
    · have hStarted := (h.toSound.finish number).started other call hCall
      rw [started_finish] at hStarted
      rw [(h.same_finish (Nat.lt_of_lt_of_le hStarted h.few) hNe).calls] at hCall
      exact h.ids other call hCall

theorem endpoint_finish (manager : Manager) (number : Nat) :
    (manager.finish number).endpoint = manager.endpoint := by
  rw [finish]
  cases manager.calls.get? number <;> rfl

theorem started_poll (manager : Manager) (number : Nat) (now : Moment) :
    (manager.poll number now).1.started = manager.started := by
  rcases manager.poll_cases number now with ⟨hSame, _⟩ | ⟨_, _, _, _, hFinish, _⟩
  · rw [hSame]
  · rw [hFinish, started_finish]

theorem poll_of_none (h : manager.calls.get? number = none) (now : Moment) :
    manager.poll number now = (manager, [], none) := by
  rw [poll, h]

theorem Awaits.poll_answered {result : Bytes}
    (h : manager.Awaits number target timeout deadline (.answered result)) (now : Moment) :
    manager.poll number now = (manager.finish number, [], some (.ok result)) := by
  rw [poll, h.known]

/-- A call that waits ends when its time is over. -/
theorem Awaits.poll_waiting (h : manager.Awaits number target timeout deadline .waiting)
    (now : Moment) :
    manager.poll number now =
      if Timer.isDue deadline now then
        (manager.finish number, [.invocationTimedOut (UInt32.ofNat number) target],
          some (.error (.timeout target timeout)))
      else
        (manager, [], none) := by
  rw [poll, h.known]

end RobotBus.Calls.Manager
