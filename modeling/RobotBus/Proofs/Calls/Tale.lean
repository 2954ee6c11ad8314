import RobotBus.Proofs.Calls.Service

/-!
# What happens to a call

The happenings of one call, in the order in which they can come (`Tale`). Two things go on beside
each other: a message or a run is on its way for the call, where it is being told by a `Token`, and
the call waits until it ends. `Told` collects what can be read off.
-/

namespace RobotBus.Calls

/-- How far a call has got: its invocation is on its way, its run goes on, its run has ended without
a result, its reply is on its way, or its reply has arrived. -/
inductive Token
  | outbound
  | running
  | failed (response : Response)
  | inbound (result : Bytes)
  | arrived (result : Bytes)

/-- What a call that has not ended can get. -/
def Token.channel : Token → Channel
  | arrived result => .answered result
  | outbound | running | failed _ | inbound _ => .waiting

/-- A call that got nothing in time. -/
def Request.timedOut (request : Request) (target : String) : Outcome :=
  .error (.timeout target request.timeout)

/-- The happenings of a call, the newest one last. -/
inductive Tale (target : String) (call : Nat) (request : Request) :
    List Happening → Token → Option Outcome → Prop
  | invoked : Tale target call request [.invoked call request] .outbound none
  | started {log : List Happening} {outcome : Option Outcome}
      (h : Tale target call request log .outbound outcome) :
      Tale target call request (log ++ [.started call request.arguments]) .running outcome
  | failed {log : List Happening} {outcome : Option Outcome}
      (h : Tale target call request log .running outcome) (response : Response)
      (hFailed : ∀ result, response ≠ .result result) :
      Tale target call request (log ++ [.concluded call response]) (.failed response) outcome
  | replied {log : List Happening} {outcome : Option Outcome}
      (h : Tale target call request log .running outcome) (result : Bytes) :
      Tale target call request (log ++ [.concluded call (.result result)]) (.inbound result) outcome
  | arrived {log : List Happening} {outcome : Option Outcome} {result : Bytes}
      (h : Tale target call request log (.inbound result) outcome) :
      Tale target call request (log ++ [.arrived call result]) (.arrived result) outcome
  | returned {log : List Happening} {result : Bytes}
      (h : Tale target call request log (.arrived result) none) :
      Tale target call request (log ++ [.ended call (.ok result)]) (.arrived result)
        (some (.ok result))
  | timedOut {log : List Happening} {token : Token} (h : Tale target call request log token none)
      (hWaits : token.channel = .waiting) :
      Tale target call request (log ++ [.ended call (request.timedOut target)]) token
        (some (request.timedOut target))

/-! ## Reading a tale -/

namespace Happening

def request? : Happening → Option Request
  | invoked _ request => some request
  | _ => none

def start? : Happening → Option Bytes
  | started _ arguments => some arguments
  | _ => none

def response? : Happening → Option Response
  | concluded _ response => some response
  | _ => none

def result? : Happening → Option Bytes
  | arrived _ result => some result
  | _ => none

def outcome? : Happening → Option Outcome
  | ended _ outcome => some outcome
  | _ => none

end Happening

/-- What was asked of a call. -/
abbrev requests (story : List Happening) : List Request :=
  story.filterMap Happening.request?

/-- The arguments with which runs were started. -/
abbrev starts (story : List Happening) : List Bytes :=
  story.filterMap Happening.start?

/-- How runs have ended. -/
abbrev responses (story : List Happening) : List Response :=
  story.filterMap Happening.response?

/-- The results that have reached the manager. -/
abbrev results (story : List Happening) : List Bytes :=
  story.filterMap Happening.result?

/-- How a call has ended. -/
abbrev outcomes (story : List Happening) : List Outcome :=
  story.filterMap Happening.outcome?

namespace Token

/-- The arguments of the runs that were started. -/
def starts (token : Token) (request : Request) : List Bytes :=
  match token with
  | outbound => []
  | running | failed _ | inbound _ | arrived _ => [request.arguments]

/-- The responses of the runs that have ended. -/
def responses : Token → List Response
  | outbound | running => []
  | failed response => [response]
  | inbound result | arrived result => [.result result]

/-- The results that have arrived. -/
def results : Token → List Bytes
  | arrived result => [result]
  | outbound | running | failed _ | inbound _ => []

end Token

/-- The outcome of a call that ends after some happenings. -/
def Request.outcome (request : Request) (target : String) (log : List Happening) : Outcome :=
  match log.filterMap Happening.result? with
  | [] => request.timedOut target
  | result :: _ => .ok result

structure Told (target : String) (call : Nat) (request : Request) (log : List Happening)
    (token : Token) (outcome : Option Outcome) : Prop where
  requests_eq : log.filterMap Happening.request? = [request]
  starts_eq : log.filterMap Happening.start? = token.starts request
  responses_eq : log.filterMap Happening.response? = token.responses
  results_eq : log.filterMap Happening.result? = token.results
  outcomes_eq : log.filterMap Happening.outcome? = outcome.toList
  failed : ∀ response, token = .failed response → ∀ result, response ≠ .result result
  ending : ∀ ending, outcome = some ending → ending = request.timedOut target ∨
    ∃ result, ending = .ok result ∧ token = .arrived result
  endings : ∀ before ending after, log = before ++ .ended call ending :: after →
    before.filterMap Happening.request? = [request] ∧ ending = request.outcome target before

variable {target : String} {call : Nat} {request : Request} {log : List Happening} {token : Token}
  {outcome : Option Outcome}

theorem eq_of_append_singleton {α : Type} {items before after : List α} {item last : α}
    (h : items ++ [last] = before ++ item :: after) :
    (items = before ∧ last = item ∧ after = []) ∨
      ∃ front, after = front ++ [last] ∧ items = before ++ item :: front := by
  rcases List.eq_nil_or_concat after with rfl | ⟨front, other, rfl⟩
  · obtain ⟨hItems, hLast⟩ := List.append_inj' h rfl
    exact .inl ⟨hItems, (List.cons.inj hLast).1, rfl⟩
  · rw [List.concat_eq_append, ← List.cons_append, ← List.append_assoc] at h
    obtain ⟨hItems, hLast⟩ := List.append_inj' h rfl
    obtain ⟨rfl, _⟩ := List.cons.inj hLast
    exact .inr ⟨front, List.concat_eq_append, hItems⟩

theorem filterMap_singleton {α β : Type} (f : α → Option β) (item : α) :
    [item].filterMap f = (f item).toList := by
  rw [List.filterMap_cons, List.filterMap_nil]
  cases f item <;> rfl

/-- Something happens on the way of a call. -/
theorem Told.concat (h : Told target call request log token outcome) {happening : Happening}
    {token' : Token} (hToken : ∀ result, token ≠ .arrived result)
    (hRequest : happening.request? = none) (hOutcome : happening.outcome? = none)
    (hStarts : token'.starts request = token.starts request ++ happening.start?.toList)
    (hResponses : token'.responses = token.responses ++ happening.response?.toList)
    (hResults : token'.results = token.results ++ happening.result?.toList)
    (hFailed : ∀ response, token' = .failed response → ∀ result, response ≠ .result result) :
    Told target call request (log ++ [happening]) token' outcome where
  requests_eq := by
    rw [List.filterMap_append, h.requests_eq, filterMap_singleton, hRequest]
    rfl
  starts_eq := by rw [List.filterMap_append, h.starts_eq, filterMap_singleton, hStarts]
  responses_eq := by rw [List.filterMap_append, h.responses_eq, filterMap_singleton, hResponses]
  results_eq := by rw [List.filterMap_append, h.results_eq, filterMap_singleton, hResults]
  outcomes_eq := by
    rw [List.filterMap_append, h.outcomes_eq, filterMap_singleton, hOutcome]
    exact List.append_nil _
  failed := hFailed
  ending ending hEnding := (h.ending ending hEnding).imp_right fun ⟨result, _, hArrived⟩ =>
    absurd hArrived (hToken result)
  endings before ending after hSplit := by
    rcases eq_of_append_singleton hSplit with ⟨_, rfl, _⟩ | ⟨front, _, hLog⟩
    · cases hOutcome
    · exact h.endings before ending front hLog

/-- The end of a call is told by what has arrived before. -/
theorem Told.ended (h : Told target call request log token none) :
    Told target call request (log ++ [.ended call (request.outcome target log)]) token
      (some (request.outcome target log)) where
  requests_eq := by
    rw [List.filterMap_append, h.requests_eq]
    rfl
  starts_eq := by
    rw [List.filterMap_append, h.starts_eq]
    exact List.append_nil _
  responses_eq := by
    rw [List.filterMap_append, h.responses_eq]
    exact List.append_nil _
  results_eq := by
    rw [List.filterMap_append, h.results_eq]
    exact List.append_nil _
  outcomes_eq := by
    rw [List.filterMap_append, h.outcomes_eq]
    rfl
  failed := h.failed
  ending := by
    rintro _ ⟨⟩
    rw [Request.outcome, h.results_eq]
    cases token with
    | arrived result => exact .inr ⟨result, rfl, rfl⟩
    | outbound | running | failed | inbound => exact .inl rfl
  endings before ending after hSplit := by
    rcases eq_of_append_singleton hSplit with ⟨rfl, hSame, _⟩ | ⟨front, _, hLog⟩
    · obtain ⟨_, rfl⟩ := Happening.ended.inj hSame
      exact ⟨h.requests_eq, rfl⟩
    · exact h.endings before ending front hLog

theorem Tale.told (h : Tale target call request log token outcome) :
    Told target call request log token outcome := by
  induction h with
  | invoked =>
    refine ⟨rfl, rfl, rfl, rfl, rfl, nofun, nofun, ?_⟩
    intro before ending after hSplit
    rcases eq_of_append_singleton (List.nil_append _ |>.trans hSplit) with
      ⟨_, hSame, _⟩ | ⟨front, _, hNil⟩
    · cases hSame
    · cases List.append_eq_nil_iff.1 hNil.symm |>.2
  | started _ ih => exact ih.concat nofun rfl rfl rfl rfl rfl nofun
  | failed _ response hFailed ih =>
    refine ih.concat nofun rfl rfl rfl rfl rfl ?_
    intro other hSame
    obtain rfl := Token.failed.inj hSame
    exact hFailed
  | replied _ result ih => exact ih.concat nofun rfl rfl rfl rfl rfl nofun
  | arrived _ ih => exact ih.concat nofun rfl rfl rfl rfl rfl nofun
  | returned _ ih =>
    have hEnded := ih.ended
    rw [Request.outcome, ih.results_eq] at hEnded
    exact hEnded
  | @timedOut log token _ hWaits ih =>
    have hEnded := ih.ended
    have hNone : token.results = [] := by
      cases token with
      | arrived result => cases hWaits
      | outbound | running | failed | inbound => rfl
    rw [Request.outcome, ih.results_eq, hNone] at hEnded
    exact hEnded

/-! ## What can be read off -/

namespace Told

variable (h : Told target call request log token outcome)
include h

theorem request_mem : request ∈ requests log := by
  rw [requests, h.requests_eq]
  exact List.mem_singleton_self request

theorem eq_of_mem_requests {asked : Request} (hAsked : asked ∈ requests log) : asked = request := by
  rw [requests, h.requests_eq] at hAsked
  exact List.mem_singleton.1 hAsked

theorem eq_of_mem_outcomes {ending : Outcome} (hEnding : ending ∈ outcomes log) :
    outcome = some ending := by
  rw [outcomes, h.outcomes_eq] at hEnding
  exact Option.mem_toList.1 hEnding

theorem starts_of_request : starts log = [] ∨ starts log = [request.arguments] := by
  rw [starts, h.starts_eq]
  cases token with
  | outbound => exact .inl rfl
  | running | failed | inbound | arrived => exact .inr rfl

theorem responses_of_result {result : Bytes} (hResult : result ∈ results log) :
    responses log = [.result result] := by
  rw [results, h.results_eq] at hResult
  rw [responses, h.responses_eq]
  cases token with
  | arrived own =>
    obtain rfl := List.mem_singleton.1 hResult
    rfl
  | outbound | running | failed | inbound => cases hResult

theorem length_outcomes_le : (outcomes log).length ≤ 1 := by
  rw [outcomes, h.outcomes_eq]
  cases outcome with
  | none => exact Nat.zero_le 1
  | some ending => exact Nat.le_refl 1

theorem responses_of_returned {result : Bytes} (hReturned : .ok result ∈ outcomes log) :
    responses log = [.result result] := by
  rw [responses, h.responses_eq]
  rcases h.ending _ (h.eq_of_mem_outcomes hReturned) with hTimedOut | ⟨own, hOwn, rfl⟩
  · cases hTimedOut
  · obtain rfl := Except.ok.inj hOwn
    rfl

/-- What has arrived before has arrived at all, and that is one result at most. -/
theorem results_of_front {before after : List Happening} (hSplit : log = before ++ after)
    {result : Bytes} (hResult : result ∈ results before) : results before = [result] := by
  have hFront : results before <+: token.results := by
    rw [← h.results_eq, hSplit, List.filterMap_append]
    exact List.prefix_append _ _
  cases token with
  | arrived own =>
    obtain ⟨later, hAll⟩ := hFront
    rcases List.append_eq_singleton_iff.1 hAll with ⟨hNone, _⟩ | ⟨hOne, _⟩
    · rw [hNone] at hResult
      cases hResult
    · rw [hOne] at hResult ⊢
      rw [List.mem_singleton.1 hResult]
  | outbound | running | failed | inbound =>
    rw [List.prefix_nil.1 hFront] at hResult
    cases hResult

theorem returned_of_arrived {before after : List Happening} {ending : Outcome}
    (hSplit : log = before ++ .ended call ending :: after) {result : Bytes}
    (hResult : result ∈ results before) : ending = .ok result := by
  obtain ⟨_, rfl⟩ := h.endings before ending after hSplit
  have hOne := h.results_of_front hSplit hResult
  rw [results] at hOne
  rw [Request.outcome, hOne]

theorem timedOut_of_late {before after : List Happening} {ending : Outcome}
    (hSplit : log = before ++ .ended call ending :: after) (hNone : results before = []) :
    request ∈ requests before ∧ ending = request.timedOut target := by
  obtain ⟨hBefore, rfl⟩ := h.endings before ending after hSplit
  rw [results] at hNone
  rw [requests, hBefore, Request.outcome, hNone]
  exact ⟨List.mem_singleton_self request, rfl⟩

theorem timedOut_of_failed {response : Response} (hResponse : response ∈ responses log)
    (hFailed : ∀ result, response ≠ .result result) {ending : Outcome}
    (hEnding : ending ∈ outcomes log) : ending = request.timedOut target := by
  rcases h.ending _ (h.eq_of_mem_outcomes hEnding) with hTimedOut | ⟨own, _, rfl⟩
  · exact hTimedOut
  · rw [responses, h.responses_eq] at hResponse
    exact absurd (List.mem_singleton.1 hResponse) (hFailed own)

end Told

end RobotBus.Calls
