import RobotBus.Proofs.Calls.Progress

/-!
# Remote calls

What those who call a procedure over a bus may rely on (`Reliable`). All of it can be read off the
tale of a call, and what the manager knows of it (`Follows.reliable`), so it is true of each call of
an orderly exchange.
-/

namespace RobotBus.Calls

/-- What callers rely on. The story of a call tells what has happened to it, in order. -/
structure Reliable (service : Service) (manager : Manager) (call : Nat) (story : List Happening) :
    Prop where
  /-- Nothing happens to a call before it is invoked, and it is invoked once. -/
  invoked : story = [] ∨ ∃ request, requests story = [request]
  /-- The procedure is started at most once, with the arguments of the call. -/
  started : starts story = [] ∨ ∃ request ∈ requests story, starts story = [request.arguments]
  /-- A result that reaches the manager is what the only run of the call has resulted in. -/
  own : ∀ result ∈ results story, responses story = [.result result]
  /-- A call ends at most once. -/
  ended : (outcomes story).length ≤ 1
  /-- What a call returns is what its only run has resulted in. -/
  returned : ∀ result, .ok result ∈ outcomes story → responses story = [.result result]
  /-- A call whose result has reached the manager before it ends returns this result. -/
  inTime : ∀ before outcome after, story = before ++ .ended call outcome :: after →
    ∀ result ∈ results before, outcome = .ok result
  /-- A call that ends before a result has reached the manager has timed out. -/
  late : ∀ before outcome after, story = before ++ .ended call outcome :: after →
    results before = [] → ∃ request ∈ requests before, outcome = request.timedOut service.target
  /-- A call whose run has no result times out if it ends. -/
  failed : ∀ response ∈ responses story, (∀ result, response ≠ .result result) →
    ∀ outcome ∈ outcomes story, ∃ request ∈ requests story,
      outcome = request.timedOut service.target
  /-- A call that is looked after ends with its result, or else if its time is over. -/
  polled : ∀ request ∈ requests story, outcomes story = [] → ∀ now,
    (manager.poll call now).2.2 =
      match results story with
      | result :: _ => some (.ok result)
      | [] =>
        if Timer.isDue (request.issuedAt + request.timeout) now then
          some (request.timedOut service.target)
        else
          none

variable {τ : Type} {service : Service} {exchange : Exchange τ} {call : Nat} {request : Request}
  {token : Token} {outcome : Option Outcome}

theorem reliable_nil (service : Service) (manager : Manager) (call : Nat) :
    Reliable service manager call [] where
  invoked := .inl rfl
  started := .inl rfl
  own := nofun
  ended := Nat.zero_le 1
  returned := nofun
  inTime _ _ _ hSplit := by simp at hSplit
  late _ _ _ hSplit := by simp at hSplit
  failed := nofun
  polled := nofun

/-- What the next look at a call that has not ended finds. -/
theorem poll_of_awaits {target : String} {manager : Manager}
    (h : manager.Awaits call target request.timeout (request.issuedAt + request.timeout)
      token.channel) (now : Moment) :
    (manager.poll call now).2.2 =
      match token.results with
      | result :: _ => some (.ok result)
      | [] =>
        if Timer.isDue (request.issuedAt + request.timeout) now then
          some (request.timedOut target)
        else
          none := by
  cases token with
  | arrived result =>
    rw [h.poll_answered]
    rfl
  | outbound | running | failed | inbound =>
    rw [Manager.Awaits.poll_waiting h]
    simp only [Token.results]
    split <;> rfl

theorem Follows.reliable (h : Follows service exchange call request token outcome) :
    Reliable service exchange.net.links.manager call (happeningsOf call exchange.log) := by
  have hTold := h.tale.told
  exact {
    invoked := .inr ⟨request, hTold.requests_eq⟩
    started := hTold.starts_of_request.imp_right fun hStarts =>
      ⟨request, hTold.request_mem, hStarts⟩
    own := fun _ => hTold.responses_of_result
    ended := hTold.length_outcomes_le
    returned := fun _ => hTold.responses_of_returned
    inTime := fun _ _ _ hSplit _ => hTold.returned_of_arrived hSplit
    late := fun _ _ _ hSplit hNone => ⟨request, hTold.timedOut_of_late hSplit hNone⟩
    failed := fun _ hResponse hFailed _ hEnding =>
      ⟨request, hTold.request_mem, hTold.timedOut_of_failed hResponse hFailed hEnding⟩
    polled := by
      intro asked hAsked hNone now
      obtain rfl := hTold.eq_of_mem_requests hAsked
      rw [outcomes, hTold.outcomes_eq] at hNone
      obtain rfl := Option.toList_eq_nil_iff.1 hNone
      rw [results, hTold.results_eq]
      exact poll_of_awaits h.known now }

/-- **Remote calls return their own results.** As long as the links of a service stay bound and
nobody else replies to its manager, tasks may be done in any order, runs of the procedure may end in
any order, and calls may be looked after at any time: up to 2 ^ 32 calls, none of them starts the
procedure twice, or returns anything but what its own run has resulted in. A call whose result has
arrived returns it when it is looked after, and one that ends before that has timed out. -/
theorem calls_return_own_results (service : Service)
    (others : Network (Desk τ) → LinkId → Message → Reaction τ) (net : Network τ)
    (timeout : Duration) (moves : List Move) (hFew : moves.countP Move.isInvoke ≤ 2 ^ 32)
    (hIntact : ∀ before, before <+: moves →
      service.Intact (service.run others (service.opening net timeout) before)) (call : Nat) :
    let final := service.run others (service.opening net timeout) moves
    Reliable service final.net.links.manager call (happeningsOf call final.log) := by
  intro final
  have hCount : 0 + moves.countP Move.isInvoke ≤ UInt32.size := (Nat.zero_add _).symm ▸ hFew
  have hOrderly := (orderly_opening service net timeout).run others moves hCount hIntact
  by_cases hCall : call < final.net.links.manager.started
  · obtain ⟨request, token, outcome, hFollows⟩ := hOrderly.follows call hCall
    exact hFollows.reliable
  · rw [(hOrderly.future call (Nat.le_of_not_lt hCall)).2.2]
    exact reliable_nil service _ call

/-! ## Two calls -/

/-- The bridge from a caller to a lamp. -/
def lampBridge : Bridge := ⟨⟨0, "b", 1⟩, ⟨1, "a", 2⟩⟩

def lampService : Service where
  endpoint := ⟨0, "calls", 3⟩
  walk := [lampBridge]
  procedure := ⟨1, "lamp", none, .result⟩
  link := 4
  role
    | 1 => .bridge lampBridge
    | 2 => .bridge lampBridge.reverse
    | 3 => .endpoint
    | 4 => .procedure
    | _ => .other
  isWalk := .cons lampBridge (.nil 1)
  endpointName := by decide
  procedureName := by decide
  bridgeNames := by decide
  role_endpoint := rfl
  role_procedure := rfl
  role_bridges := List.forall_mem_singleton.2 ⟨rfl, rfl⟩

def lampNetwork : Network Unit where
  nodes := {
    entries :=
      [(0, { links := { entries := [("b", 1), ("calls", 3)], distinct := by decide } }),
        (1, { links := { entries := [("lamp", 4), ("a", 2)], distinct := by decide } })]
    distinct := by decide }
  now := 0
  log := []
  links := ()

/-- The second call overtakes the first one, whose run breaks down, while a stranger sends a
negative acknowledgement to the manager. -/
def lampMoves : List Move :=
  [.invoke [1] 5, .invoke [2] 5, .work 0, .work 0, .work 0, .work 0, .work 2, .work 0, .work 0,
    .work 0, .conclude 1 (.result [7]), .work 0, .work 0, .work 0,
    .intrude (.transmit 0 ⟨some "calls/00000000", none, Payload.negativeAck⟩ none), .work 0,
    .work 1, .work 0, .conclude 0 .breakdown, .wait 2000000, .poll 0, .poll 1]

theorem two_calls_return_own_results :
    let run := lampService.run (τ := Unit) (fun _ _ _ => { links := () })
      (lampService.opening lampNetwork 5)
    lampMoves.countP Move.isInvoke ≤ 2 ^ 32 ∧
      (∀ before, before <+: lampMoves → lampService.Intact (run before)) ∧
      outcomes (happeningsOf 0 (run lampMoves).log) = [.error (.timeout "b/lamp" 5)] ∧
      outcomes (happeningsOf 1 (run lampMoves).log) = [.ok [7]] ∧
      ∀ call, Reliable lampService (run lampMoves).net.links.manager call
        (happeningsOf call (run lampMoves).log) := by
  intro run
  have hFew : lampMoves.countP Move.isInvoke ≤ 2 ^ 32 := by decide
  have hTaken : ∀ count < 23, lampService.Intact (run (lampMoves.take count)) := by
    decide +kernel
  have hIntact : ∀ before, before <+: lampMoves → lampService.Intact (run before) := by
    intro before hBefore
    rw [List.prefix_iff_eq_take.1 hBefore]
    exact hTaken before.length (Nat.lt_succ_of_le hBefore.length_le)
  exact ⟨hFew, hIntact, rfl, rfl, calls_return_own_results lampService _ lampNetwork 5 lampMoves
    hFew hIntact⟩

end RobotBus.Calls
