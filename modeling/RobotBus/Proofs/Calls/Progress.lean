import RobotBus.Proofs.Calls.Journey
import RobotBus.Proofs.Calls.Numbering
import RobotBus.Proofs.Calls.Tale

/-!
# Calls on their way

Each call of a service is in one place at a time: its invocation or its reply is on a journey, or
its run goes on, or nothing serves it any more (`Token.Placed`). Beside that, the manager awaits it
until it ends (`Known`). In an orderly exchange each call `Follows` a tale that tells where it is,
and nothing serves a call that has not begun. Each move keeps an exchange orderly (`Orderly.step`),
for it concerns one call at most and leaves the others untouched (`Orderly.of_one`).
-/

namespace RobotBus.Calls

/-- What serves a call. -/
def serving {α : Type} (call : Nat) (entries : List (Option Nat × α)) : List α :=
  entries.filterMap fun entry => if entry.1 = some call then some entry.2 else none

/-- The happenings of a call, in order. -/
def happeningsOf (call : Nat) (log : List Happening) : List Happening :=
  log.filter fun happening => happening.call = call

/-- Where a call is, among the tasks and runs that serve it. -/
def Token.Placed (service : Service) (call : Nat) (request : Request) (tasks : List Task)
    (runs : List Run) : Token → Prop
  | outbound => (∃ task, (service.outbound call request.arguments).IsTask task ∧
      tasks.filter isLive = [task]) ∧ runs = []
  | running => tasks.filter isLive = [] ∧ runs = [service.runOf call request.arguments]
  | inbound result => (∃ task, (service.inbound call result).IsTask task ∧
      tasks.filter isLive = [task]) ∧ runs = []
  | failed _ | arrived _ => tasks.filter isLive = [] ∧ runs = []

/-- What the manager knows of a call until it ends. -/
def Known (service : Service) (manager : Manager) (call : Nat) (request : Request)
    (channel : Channel) : Option Outcome → Prop
  | none => manager.Awaits call service.target request.timeout
      (request.issuedAt + request.timeout) channel
  | some _ => manager.calls.get? call = none

theorem Token.Placed.congr {service : Service} {call : Nat} {request : Request} {token : Token}
    {tasks tasks' : List Task} {runs : List Run}
    (h : token.Placed service call request tasks runs)
    (hTasks : tasks'.filter isLive = tasks.filter isLive) :
    token.Placed service call request tasks' runs := by
  cases token <;> simpa only [Placed, hTasks] using h

variable {τ : Type}

/-- A call goes its way. -/
structure Follows (service : Service) (exchange : Exchange τ) (call : Nat) (request : Request)
    (token : Token) (outcome : Option Outcome) : Prop where
  tale : Tale service.target call request (happeningsOf call exchange.log) token outcome
  placed : token.Placed service call request (serving call exchange.tasks)
    (serving call exchange.runs)
  known : Known service exchange.net.links.manager call request token.channel outcome

/-- Each call goes its way, and nothing serves a call that has not begun. -/
structure Orderly (service : Service) (exchange : Exchange τ) : Prop where
  numbered : exchange.net.links.manager.Numbered
  endpoint : exchange.net.links.manager.endpoint = service.endpoint.name
  spawned : exchange.net.links.spawned = []
  future : ∀ call, exchange.net.links.manager.started ≤ call →
    serving call exchange.tasks = [] ∧ serving call exchange.runs = [] ∧
      happeningsOf call exchange.log = []
  follows : ∀ call < exchange.net.links.manager.started, ∃ request token outcome,
    Follows service exchange call request token outcome

/-- Nothing that concerns a call is different. -/
structure Untouched (exchange exchange' : Exchange τ) (call : Nat) : Prop where
  tasks : serving call exchange'.tasks = serving call exchange.tasks
  runs : serving call exchange'.runs = serving call exchange.runs
  log : happeningsOf call exchange'.log = happeningsOf call exchange.log

section Serving

variable {α : Type} {call : Nat}

theorem serving_append (entries entries' : List (Option Nat × α)) :
    serving call (entries ++ entries') = serving call entries ++ serving call entries' :=
  List.filterMap_append

theorem serving_cons_self (item : α) (entries : List (Option Nat × α)) :
    serving call ((some call, item) :: entries) = item :: serving call entries :=
  List.filterMap_cons_some (if_pos rfl)

theorem serving_cons_other {label : Option Nat} (h : label ≠ some call) (item : α)
    (entries : List (Option Nat × α)) :
    serving call ((label, item) :: entries) = serving call entries :=
  List.filterMap_cons_none (if_neg h)

theorem serving_map_self (items : List α) :
    serving call (items.map fun item => (some call, item)) = items := by
  induction items with
  | nil => rfl
  | cons item items ih => rw [List.map_cons, serving_cons_self, ih]

theorem serving_map_other {label : Option Nat} (h : label ≠ some call) (items : List α) :
    serving call (items.map fun item => (label, item)) = [] := by
  induction items with
  | nil => rfl
  | cons item items ih => rw [List.map_cons, serving_cons_other h, ih]

theorem serving_ne_nil {entries front after : List (Option Nat × α)} {item : α}
    (h : entries = front ++ (some call, item) :: after) : serving call entries ≠ [] := by
  rw [h, serving_append, serving_cons_self]
  exact List.append_ne_nil_of_right_ne_nil _ (List.cons_ne_nil _ _)

theorem exists_split {items : List α} {index : Nat} {item : α} (h : items[index]? = some item) :
    ∃ front after, items = front ++ item :: after ∧ items.eraseIdx index = front ++ after := by
  obtain ⟨hIndex, hItem⟩ := List.getElem?_eq_some_iff.1 h
  refine ⟨items.take index, items.drop (index + 1), ?_, List.eraseIdx_eq_take_drop_succ ..⟩
  rw [← hItem, ← List.drop_eq_getElem_cons hIndex, List.take_append_drop]

end Serving

theorem happeningsOf_append (call : Nat) (log log' : List Happening) :
    happeningsOf call (log ++ log') = happeningsOf call log ++ happeningsOf call log' :=
  List.filter_append ..

theorem happeningsOf_self {call : Nat} {log : List Happening}
    (h : ∀ happening ∈ log, happening.call = call) : happeningsOf call log = log :=
  List.filter_eq_self.2 fun happening hMem => decide_eq_true (h happening hMem)

theorem happeningsOf_other {call other : Nat} {log : List Happening}
    (h : ∀ happening ∈ log, happening.call = other) (hNe : call ≠ other) :
    happeningsOf call log = [] :=
  List.filter_eq_nil_iff.2 fun happening hMem hCall =>
    hNe ((of_decide_eq_true hCall).symm.trans (h happening hMem))

theorem happeningsOf_concat_self {call : Nat} {happening : Happening}
    (h : happening.call = call) (log : List Happening) :
    happeningsOf call (log ++ [happening]) = happeningsOf call log ++ [happening] := by
  have hAll : ∀ other ∈ [happening], other.call = call := List.forall_mem_singleton.2 h
  rw [happeningsOf_append, happeningsOf_self hAll]

theorem happeningsOf_concat_other {call : Nat} {happening : Happening}
    (h : call ≠ happening.call) (log : List Happening) :
    happeningsOf call (log ++ [happening]) = happeningsOf call log := by
  have hAll : ∀ other ∈ [happening], other.call = happening.call :=
    List.forall_mem_singleton.2 rfl
  rw [happeningsOf_append, happeningsOf_other hAll h, List.append_nil]

theorem happeningsOf_tell_self {call : Nat} {happenings : Nat → List Happening}
    (h : ∀ happening ∈ happenings call, happening.call = call) :
    happeningsOf call (tell (some call) happenings) = happenings call :=
  happeningsOf_self h

theorem happeningsOf_tell_other {call : Nat} {label : Option Nat} (hNe : label ≠ some call)
    {happenings : Nat → List Happening}
    (h : ∀ other, ∀ happening ∈ happenings other, happening.call = other) :
    happeningsOf call (tell label happenings) = [] := by
  cases label with
  | none => rfl
  | some other => exact happeningsOf_other (h other) fun hSame => hNe (congrArg some hSame.symm)

variable {service : Service} {exchange exchange' : Exchange τ} {call : Nat} {request : Request}
  {token : Token} {outcome : Option Outcome}

theorem Known.congr {manager manager' : Manager} {channel : Channel}
    (h : Known service manager call request channel outcome) (hSame : manager.Same manager' call) :
    Known service manager' call request channel outcome := by
  cases outcome with
  | none => exact Manager.Awaits.congr h hSame
  | some _ => exact hSame.calls.trans h

theorem Follows.of_untouched (h : Follows service exchange call request token outcome)
    (hUntouched : Untouched exchange exchange' call)
    (hSame : exchange.net.links.manager.Same exchange'.net.links.manager call) :
    Follows service exchange' call request token outcome where
  tale := by
    rw [hUntouched.log]
    exact h.tale
  placed := by
    rw [hUntouched.tasks, hUntouched.runs]
    exact h.placed
  known := h.known.congr hSame

/-- What a step is that concerns one call at most. -/
theorem Orderly.of_one (h : Orderly service exchange) (label : Option Nat)
    (hStarted : exchange'.net.links.manager.started = exchange.net.links.manager.started)
    (hNumbered : exchange'.net.links.manager.Numbered)
    (hEndpoint : exchange'.net.links.manager.endpoint = exchange.net.links.manager.endpoint)
    (hSpawned : exchange'.net.links.spawned = [])
    (hOthers : ∀ call, label ≠ some call → Untouched exchange exchange' call)
    (hSame : ∀ call < exchange.net.links.manager.started, label ≠ some call →
      exchange.net.links.manager.Same exchange'.net.links.manager call)
    (hOwn : ∀ call, label = some call → call < exchange.net.links.manager.started ∧
      ∃ request token outcome, Follows service exchange' call request token outcome) :
    Orderly service exchange' where
  numbered := hNumbered
  endpoint := hEndpoint.trans h.endpoint
  spawned := hSpawned
  future call hCall := by
    rw [hStarted] at hCall
    have hNe : label ≠ some call := fun hSame => Nat.not_lt.2 hCall (hOwn call hSame).1
    rw [(hOthers call hNe).tasks, (hOthers call hNe).runs, (hOthers call hNe).log]
    exact h.future call hCall
  follows call hCall := by
    rw [hStarted] at hCall
    by_cases hLabel : label = some call
    · exact (hOwn call hLabel).2
    · obtain ⟨request, token, outcome, hFollows⟩ := h.follows call hCall
      exact ⟨request, token, outcome,
        hFollows.of_untouched (hOthers call hLabel) (hSame call hCall hLabel)⟩

/-- A step that leaves the manager alone. -/
theorem Orderly.of_quiet (h : Orderly service exchange) (label : Option Nat)
    (hManager : exchange'.net.links.manager = exchange.net.links.manager)
    (hSpawned : exchange'.net.links.spawned = [])
    (hOthers : ∀ call, label ≠ some call → Untouched exchange exchange' call)
    (hOwn : ∀ call, label = some call → call < exchange.net.links.manager.started ∧
      ∃ request token outcome, Follows service exchange' call request token outcome) :
    Orderly service exchange' := by
  refine h.of_one label ?_ ?_ ?_ hSpawned hOthers (fun _ _ _ => ⟨?_, ?_⟩) hOwn <;> rw [hManager]
  exact h.numbered

/-! ## Beginning -/

/-- The beginning of a call, for the others. -/
theorem untouched_invoke (exchange : Exchange τ) {other : Nat} (hNe : other ≠ call)
    (desk : Desk τ) (task : Task) (request : Request) :
    Untouched exchange { exchange with
      net := { exchange.net with links := desk }
      tasks := (some call, task) :: exchange.tasks
      log := exchange.log ++ [.invoked call request] } other where
  tasks := serving_cons_other (fun hSame => hNe (Option.some.inj hSame).symm) _ _
  runs := rfl
  log := happeningsOf_concat_other hNe exchange.log

theorem Orderly.invoke (h : Orderly service exchange)
    (hFew : exchange.net.links.manager.started < UInt32.size) (arguments : Bytes)
    (timeout : Duration) : Orderly service (service.invoke exchange arguments timeout) := by
  have hInvoke : service.invoke exchange arguments timeout = { exchange with
      net := { exchange.net with
        links := { exchange.net.links with
          manager := exchange.net.links.manager.beginning service.target timeout
            exchange.net.now } }
      tasks := (some exchange.net.links.manager.started, .perform (.transmit service.endpoint.node
        ((service.outbound exchange.net.links.manager.started arguments).message [] service.walk)
        none)) :: exchange.tasks
      log := exchange.log ++ [.invoked exchange.net.links.manager.started
        ⟨arguments, timeout, exchange.net.now⟩] } := by
    rw [Service.invoke, h.numbered.begin_eq hFew, Service.message_outbound, Manager.sourceOf,
      h.endpoint]
    rfl
  rw [hInvoke]
  refine ⟨h.numbered.beginning hFew _ _ _, h.endpoint, h.spawned, ?_, ?_⟩
  · intro call hCall
    have hUntouched := untouched_invoke exchange (Nat.ne_of_gt hCall)
    obtain ⟨hTasks, hRuns, hLog⟩ := h.future call (Nat.le_of_succ_le hCall)
    exact ⟨(hUntouched _ _ _).tasks.trans hTasks, hRuns, (hUntouched _ _ _).log.trans hLog⟩
  · intro call hCall
    rcases Nat.lt_succ_iff_lt_or_eq.1 hCall with hOld | rfl
    · obtain ⟨request, token, outcome, hFollows⟩ := h.follows call hOld
      exact ⟨request, token, outcome, hFollows.of_untouched
        (untouched_invoke exchange (Nat.ne_of_lt hOld) _ _ _)
        (Manager.same_beginning hFew _ _ _ hOld)⟩
    · obtain ⟨hTasks, hRuns, hLog⟩ := h.future _ (Nat.le_refl _)
      refine ⟨⟨arguments, timeout, exchange.net.now⟩, .outbound, none, ?_,
        ⟨⟨_, .transmit [] service.walk rfl service.endpoint.node service.isWalk none, ?_⟩, hRuns⟩,
        Manager.awaits_beginning ..⟩
      · change Tale _ _ _ (happeningsOf _ (exchange.log ++ [.invoked _ _])) _ _
        rw [happeningsOf_concat_self (by rfl), hLog]
        exact .invoked
      · rw [serving_cons_self, hTasks]
        rfl

/-! ## Ends of runs -/

/-- A call that a run serves has a run of its own that goes on, and nothing else. -/
theorem Follows.of_run (h : Follows service exchange call request token outcome)
    {front after : List (Option Nat × Run)} {run : Run}
    (hRuns : exchange.runs = front ++ (some call, run) :: after) :
    token = .running ∧ run = service.runOf call request.arguments ∧
      serving call (front ++ after) = [] ∧
      (serving call exchange.tasks).filter isLive = [] := by
  have hPlaced := h.placed
  cases token with
  | running =>
    obtain ⟨hTasks, hOne⟩ := hPlaced
    rw [hRuns, serving_append, serving_cons_self] at hOne
    rcases List.append_eq_singleton_iff.1 hOne with ⟨hFront, hRun⟩ | ⟨_, hNone⟩
    · obtain ⟨hSame, hAfter⟩ := List.cons.inj hRun
      exact ⟨rfl, hSame, by rw [serving_append, hFront, hAfter, List.append_nil], hTasks⟩
    · cases hNone
  | outbound | inbound | failed | arrived => exact absurd hPlaced.2 (serving_ne_nil hRuns)

theorem Orderly.conclude (h : Orderly service exchange) (index : Nat) (response : Response) :
    Orderly service (Service.conclude exchange index response) := by
  rw [Service.conclude]
  cases hRun : exchange.runs[index]? with
  | none => exact h
  | some entry =>
    obtain ⟨label, run⟩ := entry
    obtain ⟨front, after, hRuns, hErase⟩ := exists_split hRun
    simp only [hErase]
    refine h.of_quiet label rfl h.spawned ?_ ?_
    · intro call hNe
      refine ⟨?_, ?_, ?_⟩
      · rw [serving_append, serving_map_other hNe, List.nil_append]
      · rw [hRuns, serving_append, serving_append, serving_cons_other hNe]
      · rw [happeningsOf_append, happeningsOf_tell_other hNe fun _ _ hMem =>
          List.mem_singleton.1 hMem ▸ rfl, List.append_nil]
    · rintro call rfl
      have hCall := Nat.lt_of_not_le fun hFuture =>
        serving_ne_nil hRuns (h.future call hFuture).2.1
      obtain ⟨request, token, outcome, hFollows⟩ := h.follows call hCall
      obtain ⟨rfl, rfl, hRest, hLive⟩ := hFollows.of_run hRuns
      refine ⟨hCall, request, ?_⟩
      have hLog : happeningsOf call (exchange.log ++
          tell (some call) fun call => [.concluded call response]) =
            happeningsOf call exchange.log ++ [.concluded call response] := by
        rw [happeningsOf_append, happeningsOf_tell_self fun _ hMem =>
          List.mem_singleton.1 hMem ▸ rfl]
      cases response with
      | result result =>
        refine ⟨.inbound result, outcome, ?_, ⟨⟨_, .transmit [] (Bridge.back service.walk) rfl
          service.procedure.node service.isWalk.back none, ?_⟩, hRest⟩, hFollows.known⟩
        · rw [hLog]
          exact hFollows.tale.replied result
        · rw [service.message_inbound call request.arguments, serving_append, serving_map_self,
            List.filter_append, hLive]
          rfl
      | failure text =>
        refine ⟨.failed (.failure text), outcome, ?_, ⟨hLive, hRest⟩, hFollows.known⟩
        rw [hLog]
        exact hFollows.tale.failed _ nofun
      | breakdown =>
        refine ⟨.failed .breakdown, outcome, ?_, ⟨hLive, hRest⟩, hFollows.known⟩
        rw [hLog]
        exact hFollows.tale.failed _ nofun

/-! ## Ends of calls -/

/-- An exchange after the end of a call. -/
def Exchange.ending (exchange : Exchange τ) (call : Nat) (outcome : Outcome) : Exchange τ :=
  { exchange with
    net := { exchange.net with
      links := { exchange.net.links with manager := exchange.net.links.manager.finish call } }
    log := exchange.log ++ [.ended call outcome] }

theorem Orderly.ending (h : Orderly service exchange)
    (hCall : call < exchange.net.links.manager.started)
    (hFollows : Follows service exchange call request token none) {ending : Outcome}
    (hTale : Tale service.target call request
      (happeningsOf call exchange.log ++ [.ended call ending]) token (some ending)) :
    Orderly service (exchange.ending call ending) := by
  refine h.of_one (some call) (Manager.started_finish _ _) (h.numbered.finish call)
    (Manager.endpoint_finish _ _) h.spawned ?_ ?_ ?_
  · intro other hNe
    have hOther : other ≠ call := fun hSame => hNe (congrArg some hSame.symm)
    exact ⟨rfl, rfl, happeningsOf_concat_other hOther _⟩
  · intro other hOther hNe
    exact h.numbered.same_finish (Nat.lt_of_lt_of_le hOther h.numbered.few) fun hSame =>
      hNe (congrArg some hSame.symm)
  · rintro _ ⟨⟩
    refine ⟨hCall, request, token, some ending, ?_, hFollows.placed, Manager.get?_finish_self _ _⟩
    change Tale _ _ _ (happeningsOf call (exchange.log ++ [.ended call ending])) _ _
    rw [happeningsOf_concat_self (by rfl)]
    exact hTale

theorem poll_eq (exchange : Exchange τ) (call : Nat)
    (h : exchange.net.links.manager.poll call exchange.net.now =
      (exchange.net.links.manager, [], none)) : Service.poll exchange call = exchange := by
  rw [Service.poll, h]
  exact congrArg (fun log => { exchange with log }) (List.append_nil exchange.log)

theorem Orderly.poll (h : Orderly service exchange) (call : Nat) :
    Orderly service (Service.poll exchange call) := by
  cases hKnown : exchange.net.links.manager.calls.get? call with
  | none =>
    rw [poll_eq exchange call (Manager.poll_of_none hKnown _)]
    exact h
  | some found =>
    have hCall := h.numbered.started call found hKnown
    obtain ⟨request, token, outcome, hFollows⟩ := h.follows call hCall
    have hAwaits := hFollows.known
    cases outcome with
    | some _ =>
      rw [show exchange.net.links.manager.calls.get? call = none from hAwaits] at hKnown
      cases hKnown
    | none =>
      by_cases hWaits : token.channel = .waiting
      · rw [hWaits] at hAwaits
        have hPoll := hAwaits.poll_waiting exchange.net.now
        split at hPoll
        · have hEnding := h.ending hCall hFollows (hFollows.tale.timedOut hWaits)
          rw [Service.poll, hPoll]
          exact hEnding
        · rw [poll_eq exchange call hPoll]
          exact h
      · cases token with
        | arrived result =>
          have hEnding := h.ending hCall hFollows hFollows.tale.returned
          rw [Service.poll, hAwaits.poll_answered]
          exact hEnding
        | outbound | running | failed | inbound => exact absurd rfl hWaits

/-! ## Tasks -/

/-- An exchange after one of its tasks, which has made `net` of the network, led to other tasks and
handed a result to the manager. -/
def Exchange.worked (exchange : Exchange τ) (label : Option Nat) (rest : List (Option Nat × Task))
    (net : Network (Desk τ)) (led : List Task) (result : Option Bytes) : Exchange τ where
  net := { net with links := { net.links with spawned := [] } }
  tasks := led.map (label, ·) ++ rest
  runs := net.links.spawned.map (label, ·) ++ exchange.runs
  log := exchange.log ++ tell label fun call =>
    net.links.spawned.map (.started call ·.arguments) ++ result.toList.map (.arrived call)

variable {label : Option Nat} {task : Task} {front after : List (Option Nat × Task)}
  {net : Network (Desk τ)} {led : List Task} {result : Option Bytes}

theorem call_of_worked (spawned : List Run) (result : Option Bytes) (call : Nat) :
    ∀ happening ∈ spawned.map (Happening.started call ·.arguments) ++
      result.toList.map (Happening.arrived call), happening.call = call := by
  intro happening hMem
  rcases List.mem_append.1 hMem with hStart | hResult
  · obtain ⟨_, _, rfl⟩ := List.mem_map.1 hStart
    rfl
  · obtain ⟨_, _, rfl⟩ := List.mem_map.1 hResult
    rfl

theorem happeningsOf_worked_self {rest : List (Option Nat × Task)} :
    happeningsOf call (exchange.worked (some call) rest net led result).log =
      happeningsOf call exchange.log ++ (net.links.spawned.map (.started call ·.arguments) ++
        result.toList.map (.arrived call)) := by
  rw [Exchange.worked, happeningsOf_append, happeningsOf_tell_self]
  exact call_of_worked _ result call

theorem untouched_worked (hTasks : exchange.tasks = front ++ (label, task) :: after)
    (hNe : label ≠ some call) :
    Untouched exchange (exchange.worked label (front ++ after) net led result) call where
  tasks := by
    rw [Exchange.worked, serving_append, serving_map_other hNe, List.nil_append, hTasks,
      serving_append, serving_append, serving_cons_other hNe]
  runs := by rw [Exchange.worked, serving_append, serving_map_other hNe, List.nil_append]
  log := by
    rw [Exchange.worked, happeningsOf_append, happeningsOf_tell_other hNe, List.append_nil]
    exact call_of_worked _ result

/-- A task that takes a call on is the only one that does so. -/
theorem Follows.of_task (h : Follows service exchange call request token outcome)
    (hTasks : exchange.tasks = front ++ (some call, task) :: after) (hLive : isLive task = true) :
    ((token = .outbound ∧ (service.outbound call request.arguments).IsTask task) ∨
        ∃ result, token = .inbound result ∧ (service.inbound call result).IsTask task) ∧
      (serving call (front ++ after)).filter isLive = [] ∧ serving call exchange.runs = [] := by
  have hPlaced := h.placed
  rw [hTasks, serving_append, serving_cons_self] at hPlaced
  have hFilter : (serving call front ++ task :: serving call after).filter isLive =
      (serving call front).filter isLive ++ task :: (serving call after).filter isLive := by
    rw [List.filter_append, List.filter_cons_of_pos hLive]
  have hSome : (serving call front ++ task :: serving call after).filter isLive ≠ [] := by
    rw [hFilter]
    exact List.append_ne_nil_of_right_ne_nil _ (List.cons_ne_nil _ _)
  have hOne : ∀ only, (serving call front ++ task :: serving call after).filter isLive = [only] →
      task = only ∧ (serving call (front ++ after)).filter isLive = [] := by
    intro only hOnly
    rw [hFilter] at hOnly
    rcases List.append_eq_singleton_iff.1 hOnly with ⟨hFront, hRest⟩ | ⟨_, hNone⟩
    · obtain ⟨hSame, hAfter⟩ := List.cons.inj hRest
      exact ⟨hSame, by rw [serving_append, List.filter_append, hFront, hAfter, List.append_nil]⟩
    · cases hNone
  cases token with
  | outbound =>
    obtain ⟨⟨only, hOnly, hTask⟩, hRuns⟩ := hPlaced
    obtain ⟨rfl, hRest⟩ := hOne only hTask
    exact ⟨.inl ⟨rfl, hOnly⟩, hRest, hRuns⟩
  | inbound result =>
    obtain ⟨⟨only, hOnly, hTask⟩, hRuns⟩ := hPlaced
    obtain ⟨rfl, hRest⟩ := hOne only hTask
    exact ⟨.inr ⟨result, rfl, hOnly⟩, hRest, hRuns⟩
  | running | failed | arrived => exact absurd hPlaced.1 hSome

/-- The tasks that take a call on are those that the task has led to. -/
theorem filter_worked (h : (serving call (front ++ after)).filter isLive = []) :
    (serving call (exchange.worked (some call) (front ++ after) net led result).tasks).filter
      isLive = led.filter isLive := by
  rw [Exchange.worked, serving_append, serving_map_self, List.filter_append, h, List.append_nil]

/-- Nothing happens to a call, but the tasks that serve it may be other ones. -/
theorem Follows.worked (h : Follows service exchange call request token outcome)
    (hSpawned : exchange.net.links.spawned = []) {rest : List (Option Nat × Task)}
    (hLinks : net.links = exchange.net.links)
    (hPlaced : token.Placed service call request
      (serving call (exchange.worked (some call) rest net led none).tasks)
      (serving call exchange.runs)) :
    Follows service (exchange.worked (some call) rest net led none) call request token
      outcome where
  tale := by
    rw [happeningsOf_worked_self, hLinks, hSpawned]
    exact (List.append_nil _).symm ▸ h.tale
  placed := by
    have hRuns : (exchange.worked (some call) rest net led none).runs = exchange.runs := by
      rw [Exchange.worked, hLinks, hSpawned]
      rfl
    rw [hRuns]
    exact hPlaced
  known := by
    have hKnown := h.known
    rw [← hLinks] at hKnown
    exact hKnown

/-- The run of a call starts. -/
theorem Follows.run_starts (h : Follows service exchange call request .outbound outcome)
    (hSpawned : exchange.net.links.spawned = [])
    (hRest : (serving call (front ++ after)).filter isLive = [])
    (hRuns : serving call exchange.runs = [])
    (hLinks : net.links = { exchange.net.links with
      spawned := exchange.net.links.spawned ++ [service.runOf call request.arguments] })
    (hLed : led.filter isLive = []) :
    Follows service (exchange.worked (some call) (front ++ after) net led none) call request
      .running outcome where
  tale := by
    rw [happeningsOf_worked_self, hLinks, hSpawned]
    exact h.tale.started
  placed := by
    refine ⟨(filter_worked hRest).trans hLed, ?_⟩
    rw [Exchange.worked, serving_append, serving_map_self, hRuns, hLinks, hSpawned]
    rfl
  known := by
    have hKnown := h.known
    rw [show exchange.net.links.manager = net.links.manager by rw [hLinks]] at hKnown
    exact hKnown

/-- The reply to a call arrives. -/
theorem Follows.reply_arrives {bytes : Bytes}
    (h : Follows service exchange call request (.inbound bytes) outcome)
    (hSpawned : net.links.spawned = [])
    (hRest : (serving call (front ++ after)).filter isLive = [])
    (hRuns : serving call exchange.runs = []) (hLed : led.filter isLive = [])
    (hKnown : Known service net.links.manager call request (.answered bytes) outcome) :
    Follows service (exchange.worked (some call) (front ++ after) net led (some bytes)) call request
      (.arrived bytes) outcome where
  tale := by
    rw [happeningsOf_worked_self, hSpawned]
    exact h.tale.arrived
  placed := by
    refine ⟨(filter_worked hRest).trans hLed, ?_⟩
    rw [Exchange.worked, serving_append, serving_map_self, hRuns, hSpawned]
    rfl
  known := hKnown

/-- A reply concerns its own call only, and nobody if that has ended. -/
theorem Orderly.receive_reply (h : Orderly service exchange)
    (hCall : call < exchange.net.links.manager.started) {bytes : Bytes}
    (hFollows : Follows service exchange call request (.inbound bytes) outcome)
    (source : Option String) (now : Moment) {manager : Manager}
    (hManager : manager = (exchange.net.links.manager.receive
      (Manager.replyTo call source bytes) now).1) :
    manager.started = exchange.net.links.manager.started ∧ manager.Numbered ∧
      manager.endpoint = exchange.net.links.manager.endpoint ∧
      (∀ other < exchange.net.links.manager.started, other ≠ call →
        exchange.net.links.manager.Same manager other) ∧
      Known service manager call request (.answered bytes) outcome := by
  have hSize : ∀ other < exchange.net.links.manager.started, other < UInt32.size :=
    fun other hOther => Nat.lt_of_lt_of_le hOther h.numbered.few
  have hKnown := hFollows.known
  cases outcome with
  | none =>
    rw [Manager.Awaits.receive_reply h.numbered.toSound hKnown] at hManager
    subst hManager
    refine ⟨rfl, h.numbered.replied hKnown bytes, rfl, ?_, Manager.awaits_replied ..⟩
    intro other hOther hNe
    exact Manager.same_replied (hSize call hCall) (hSize other hOther) hNe _ _ _ _
  | some ending =>
    rw [h.numbered.receive_late (hSize call hCall) hKnown] at hManager
    subst hManager
    exact ⟨rfl, h.numbered, rfl, fun _ _ _ => ⟨rfl, rfl⟩, hKnown⟩

theorem Orderly.work_quiet (h : Orderly service exchange)
    (hTasks : exchange.tasks = front ++ (label, task) :: after)
    (hManager : net.links.manager = exchange.net.links.manager)
    (hOwn : ∀ call, label = some call → call < exchange.net.links.manager.started ∧
      ∃ request token outcome, Follows service
        (exchange.worked label (front ++ after) net led result) call request token outcome) :
    Orderly service (exchange.worked label (front ++ after) net led result) :=
  h.of_quiet label hManager rfl (fun _ => untouched_worked hTasks) hOwn

section Work

variable (others : Network (Desk τ) → LinkId → Message → Reaction τ)

/-- What is left to do for a link on the way of a call does not concern the call. -/
theorem Orderly.work_settle (h : Orderly service exchange)
    (hTasks : exchange.tasks = front ++ (some call, task) :: after)
    (hCall : call < exchange.net.links.manager.started)
    (hFollows : Follows service exchange call request token outcome) (hDead : isLive task = false) :
    Orderly service (exchange.worked (some call) (front ++ after)
      (exchange.net.step (service.behave others) task).1
      (exchange.net.step (service.behave others) task).2 (service.reply? task)) := by
  cases task with
  | perform | send => cases hDead
  | settle node name link target reach verdict =>
    have hLinks := Network.links_settle exchange.net node name link target reach verdict
    refine h.work_quiet hTasks (congrArg Desk.manager hLinks) ?_
    rintro _ ⟨⟩
    refine ⟨hCall, request, token, outcome, hFollows.worked h.spawned hLinks ?_⟩
    refine hFollows.placed.congr ?_
    rw [hTasks, serving_append, serving_cons_self, List.filter_append,
      List.filter_cons_of_neg Bool.false_ne_true, ← List.filter_append, ← serving_append]
    rfl

theorem Orderly.work_outbound (h : Orderly service exchange) (hIntact : service.Intact exchange)
    (hTasks : exchange.tasks = front ++ (some call, task) :: after)
    (hCall : call < exchange.net.links.manager.started)
    (hFollows : Follows service exchange call request .outbound outcome)
    (hTask : (service.outbound call request.arguments).IsTask task)
    (hRest : (serving call (front ++ after)).filter isLive = [])
    (hRuns : serving call exchange.runs = []) :
    Orderly service (exchange.worked (some call) (front ++ after)
      (exchange.net.step (service.behave others) task).1
      (exchange.net.step (service.behave others) task).2 (service.reply? task)) := by
  rcases Journey.advance others (hIntact.open_outbound call request.arguments) hTask with
    rfl | ⟨next, hNext, hLed, hLinks, hReply⟩
  · obtain ⟨hLinks, hLed⟩ := service.step_outbound others exchange.net call request.arguments
    rw [service.reply?_outbound]
    refine h.work_quiet hTasks (by rw [hLinks]) ?_
    rintro _ ⟨⟩
    exact ⟨hCall, request, .running, outcome, hFollows.run_starts h.spawned hRest hRuns hLinks hLed⟩
  · rw [hReply]
    refine h.work_quiet hTasks (by rw [hLinks]) ?_
    rintro _ ⟨⟩
    exact ⟨hCall, request, .outbound, outcome, hFollows.worked h.spawned hLinks
      ⟨⟨next, hNext, (filter_worked hRest).trans hLed⟩, hRuns⟩⟩

theorem Orderly.work_inbound (h : Orderly service exchange) (hIntact : service.Intact exchange)
    (hTasks : exchange.tasks = front ++ (some call, task) :: after)
    (hCall : call < exchange.net.links.manager.started) {bytes : Bytes}
    (hFollows : Follows service exchange call request (.inbound bytes) outcome)
    (hTask : (service.inbound call bytes).IsTask task)
    (hRest : (serving call (front ++ after)).filter isLive = [])
    (hRuns : serving call exchange.runs = []) :
    Orderly service (exchange.worked (some call) (front ++ after)
      (exchange.net.step (service.behave others) task).1
      (exchange.net.step (service.behave others) task).2 (service.reply? task)) := by
  rcases Journey.advance others (hIntact.open_inbound call bytes) hTask with
    rfl | ⟨next, hNext, hLed, hLinks, hReply⟩
  · obtain ⟨source, hLinks, hLed⟩ := service.step_inbound others exchange.net call bytes
    rw [service.reply?_inbound]
    obtain ⟨hStarted, hNumbered, hEndpoint, hSame, hKnown⟩ :=
      h.receive_reply hCall hFollows source exchange.net.now (congrArg Desk.manager hLinks)
    refine h.of_one (some call) hStarted hNumbered hEndpoint rfl (fun _ => untouched_worked hTasks)
      (fun other hOther hNe => hSame other hOther fun hEq => hNe (congrArg some hEq.symm)) ?_
    rintro _ ⟨⟩
    exact ⟨hCall, request, .arrived bytes, outcome,
      hFollows.reply_arrives (by rw [hLinks]; exact h.spawned) hRest hRuns hLed hKnown⟩
  · rw [hReply]
    refine h.work_quiet hTasks (by rw [hLinks]) ?_
    rintro _ ⟨⟩
    exact ⟨hCall, request, .inbound bytes, outcome, hFollows.worked h.spawned hLinks
      ⟨⟨next, hNext, (filter_worked hRest).trans hLed⟩, hRuns⟩⟩

theorem Orderly.work (h : Orderly service exchange) (hIntact : service.Intact exchange)
    (index : Nat) : Orderly service (service.work others exchange index) := by
  rw [Service.work]
  cases hTask : exchange.tasks[index]? with
  | none => exact h
  | some entry =>
    obtain ⟨label, task⟩ := entry
    obtain ⟨front, after, hTasks, hErase⟩ := exists_split hTask
    simp only [hErase]
    change Orderly service (exchange.worked label (front ++ after)
      (exchange.net.step (service.behave others) task).1
      (exchange.net.step (service.behave others) task).2 (service.reply? task))
    cases label with
    | none =>
      have hReply := hIntact.strangers _ (List.mem_of_getElem? hTask) rfl
      exact h.work_quiet hTasks (service.manager_step others exchange.net hReply) nofun
    | some call =>
      have hCall := Nat.lt_of_not_le fun hFuture =>
        serving_ne_nil hTasks (h.future call hFuture).1
      obtain ⟨request, token, outcome, hFollows⟩ := h.follows call hCall
      cases hLive : isLive task with
      | false => exact h.work_settle others hTasks hCall hFollows hLive
      | true =>
        obtain ⟨⟨rfl, hOwn⟩ | ⟨bytes, rfl, hOwn⟩, hRest, hRuns⟩ := hFollows.of_task hTasks hLive
        · exact h.work_outbound others hIntact hTasks hCall hFollows hOwn hRest hRuns
        · exact h.work_inbound others hIntact hTasks hCall hFollows hOwn hRest hRuns

end Work

theorem Orderly.step (h : Orderly service exchange) (hIntact : service.Intact exchange)
    (others : Network (Desk τ) → LinkId → Message → Reaction τ) (move : Move)
    (hFew : move.isInvoke = true → exchange.net.links.manager.started < UInt32.size) :
    Orderly service (service.step others exchange move) := by
  cases move with
  | invoke arguments timeout => exact h.invoke (hFew rfl) arguments timeout
  | work index => exact h.work others hIntact index
  | conclude index response => exact h.conclude index response
  | poll call => exact h.poll call
  | intrude operation =>
    refine h.of_quiet none rfl h.spawned ?_ nofun
    intro call hNone
    exact ⟨serving_cons_other hNone _ _, rfl, rfl⟩
  | wait duration =>
    exact h.of_quiet none rfl h.spawned (fun _ _ => ⟨rfl, rfl, rfl⟩) nofun

/-! ## Runs -/

theorem Orderly.started_step (h : Orderly service exchange)
    (others : Network (Desk τ) → LinkId → Message → Reaction τ) (move : Move)
    (hFew : move.isInvoke = true → exchange.net.links.manager.started < UInt32.size) :
    (service.step others exchange move).net.links.manager.started =
      exchange.net.links.manager.started + move.isInvoke.toNat := by
  cases move with
  | invoke arguments timeout =>
    rw [Service.step, Service.invoke, h.numbered.begin_eq (hFew rfl)]
    rfl
  | work index =>
    rw [Service.step, Service.work]
    cases exchange.tasks[index]? with
    | none => rfl
    | some entry => exact service.started_step others exchange.net h.numbered.toSound entry.2
  | conclude index response =>
    rw [Service.step, Service.conclude]
    cases exchange.runs[index]? <;> rfl
  | poll call => exact Manager.started_poll _ call _
  | intrude operation => rfl
  | wait duration => rfl

/-- Every state of a run in which nothing is disturbed is orderly. -/
theorem Orderly.run (h : Orderly service exchange)
    (others : Network (Desk τ) → LinkId → Message → Reaction τ) (moves : List Move)
    (hFew : exchange.net.links.manager.started + moves.countP Move.isInvoke ≤ UInt32.size)
    (hIntact : ∀ before, before <+: moves →
      service.Intact (service.run others exchange before)) :
    Orderly service (service.run others exchange moves) := by
  induction moves generalizing exchange with
  | nil => exact h
  | cons move moves ih =>
    rw [List.countP_cons] at hFew
    have hMove : move.isInvoke = true → exchange.net.links.manager.started < UInt32.size := by
      intro hInvoke
      rw [if_pos hInvoke] at hFew
      omega
    refine ih (h.step (hIntact [] List.nil_prefix) others move hMove) ?_ ?_
    · rw [h.started_step others move hMove]
      cases hInvoke : move.isInvoke with
      | false =>
        rw [hInvoke, if_neg Bool.false_ne_true] at hFew
        exact hFew
      | true =>
        rw [hInvoke, if_pos rfl] at hFew
        change _ + 1 + _ ≤ _
        omega
    · intro before hBefore
      exact hIntact (move :: before) ((List.prefix_cons_inj move).2 hBefore)

theorem orderly_opening (service : Service) (net : Network τ) (timeout : Duration) :
    Orderly service (service.opening net timeout) where
  numbered := Manager.numbered_start _ _
  endpoint := rfl
  spawned := rfl
  future _ _ := ⟨rfl, rfl, rfl⟩
  follows := nofun

end RobotBus.Calls
