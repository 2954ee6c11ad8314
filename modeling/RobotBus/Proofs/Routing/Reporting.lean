import RobotBus.Routing.MissingLink

/-!
# Reports of missing links

A reporter keeps no more than the name and the moment of its last report. Over any sequence of
failures this comes to a law about the answers alone (`reports_follow_history`): whether a failure
is reported depends on itself and on the most recent failure before it that was reported, and on
nothing else in the past. The reporter remembers just that failure (`last_after`). A failure that is
not reported leaves the reporter as it was, so it could as well be left out of the sequence
(`tell_without`).
-/

namespace RobotBus

/-- A mark occurs in a text if it is a part of it. -/
theorem Path.occursIn_iff {needle text : List Char} :
    occursIn needle text = true ↔ needle <:+: text := by
  induction text with
  | nil => simp [occursIn]
  | cons c rest ih => simp [occursIn, ih, List.infix_cons_iff]

namespace MissingLinkReporter

/-! ## Failures and answers -/

/-- A message to a missing link, at a moment. -/
structure Failure where
  target : String
  name : String
  payload : Bytes
  moment : Moment
deriving DecidableEq, Repr

namespace Failure

/-- The message is a negative acknowledgement or a probe. -/
def IsExempt (failure : Failure) : Prop :=
  failure.payload.head? = some Tag.negativeAck.code ∨ "/rsch-".toList <:+: failure.target.toList

/-- The name comes again within the interval. -/
def Repeats (failure last : Failure) (interval : Duration) : Prop :=
  last.name = failure.name ∧ failure.moment < last.moment + interval

theorem isExempt_iff {failure : Failure} :
    MissingLinkReporter.isExempt failure.target failure.payload = true ↔ failure.IsExempt := by
  rw [MissingLinkReporter.isExempt, Bool.or_eq_true, Payload.isNegativeAck, beq_iff_eq,
    Path.isProbe, Path.occursIn_iff]
  rfl

end Failure

/-- A failure, and whether it was reported. -/
structure Answer where
  failure : Failure
  reported : Bool
deriving DecidableEq, Repr

def judge (reporter : MissingLinkReporter) (failure : Failure) : Bool × MissingLinkReporter :=
  reporter.report failure.target failure.name failure.payload failure.moment

/-- The answers of a reporter to failures one after the other. -/
def tell (reporter : MissingLinkReporter) : List Failure → List Answer
  | [] => []
  | failure :: failures =>
    ⟨failure, (reporter.judge failure).1⟩ :: (reporter.judge failure).2.tell failures

/-- The reporter after some failures. -/
def after (reporter : MissingLinkReporter) (failures : List Failure) : MissingLinkReporter :=
  failures.foldl (fun reporter failure => (reporter.judge failure).2) reporter

/-- The most recent failure that was reported. -/
def lastReport? (answers : List Answer) : Option Failure :=
  (answers.reverse.find? (·.reported)).map (·.failure)

theorem lastReport?_cons (answer : Answer) (answers : List Answer) :
    lastReport? (answer :: answers) =
      (lastReport? answers).or (if answer.reported then some answer.failure else none) := by
  rw [lastReport?, lastReport?, List.reverse_cons, List.find?_append]
  cases answers.reverse.find? (·.reported) with
  | some later => rfl
  | none => by_cases hReported : answer.reported <;> simp [hReported]

theorem mem_of_lastReport? {answers : List Answer} {last : Failure}
    (h : lastReport? answers = some last) : ⟨last, true⟩ ∈ answers := by
  rw [lastReport?, Option.map_eq_some_iff] at h
  obtain ⟨⟨failure, reported⟩, hFind, rfl⟩ := h
  obtain rfl : reported = true := by simpa using List.find?_some hFind
  exact List.mem_reverse.1 (List.mem_of_find?_eq_some hFind)

/-- Behind a report, the most recent one is that report or a later one. -/
theorem lastReport?_append_cons (before : List Answer) {answer : Answer} (between : List Answer)
    (h : answer.reported = true) : ∃ last, lastReport? (before ++ answer :: between) = some last ∧
      ⟨last, true⟩ ∈ answer :: between := by
  have hLast : lastReport? (before ++ answer :: between) =
      (lastReport? (answer :: between)).or (lastReport? before) := by
    rw [lastReport?, lastReport?, lastReport?, List.reverse_append, List.find?_append]
    cases (answer :: between).reverse.find? (·.reported) <;> rfl
  rw [hLast, lastReport?_cons, if_pos h]
  cases hBetween : lastReport? between with
  | some last => exact ⟨last, rfl, List.mem_cons_of_mem _ (mem_of_lastReport? hBetween)⟩
  | none => exact ⟨answer.failure, rfl, by simp [← h]⟩

/-! ## One failure -/

variable {reporter : MissingLinkReporter} {failure : Failure} {failures : List Failure}

/-- A failure that is not reported leaves no trace. -/
theorem judge_of_not_reported (h : (reporter.judge failure).1 = false) :
    (reporter.judge failure).2 = reporter := by
  rw [judge, report] at h ⊢
  split at h
  · rename_i hSilent
    rw [if_pos hSilent]
  · cases h

theorem judge_of_reported (h : (reporter.judge failure).1 = true) :
    (reporter.judge failure).2 = { reporter with last := some (failure.name, failure.moment) } := by
  rw [judge, report] at h ⊢
  split at h
  · cases h
  · rename_i hReported
    rw [if_neg hReported]

/-- The reporter judges by the last failure that it remembers. -/
theorem judge_iff {last? : Option Failure}
    (hLast : reporter.last = last?.map fun last => (last.name, last.moment))
    (hTimes : ∀ last, last? = some last → last.moment ≤ failure.moment) :
    (reporter.judge failure).1 = true ↔ ¬failure.IsExempt ∧
      ¬∃ last, last? = some last ∧ failure.Repeats last reporter.interval := by
  have hSuppresses : reporter.suppresses failure.name failure.moment = true ↔
      ∃ last, last? = some last ∧ failure.Repeats last reporter.interval := by
    rw [suppresses, hLast]
    cases last? with
    | none => simp
    | some last =>
      have hPast := hTimes last rfl
      simp only [Option.map_some, Bool.and_eq_true, beq_iff_eq, decide_eq_true_eq,
        Option.some.injEq, exists_eq_left', Failure.Repeats]
      exact and_congr_right fun _ => Nat.sub_lt_iff_lt_add' hPast
  rw [← hSuppresses, ← Failure.isExempt_iff, judge, report, ← not_or, ← Bool.or_eq_true]
  split
  · rename_i hSilent
    simp [hSilent]
  · rename_i hReported
    simp [hReported]

/-! ## Sequences of failures -/

theorem tell_append (reporter : MissingLinkReporter) (failures failures' : List Failure) :
    reporter.tell (failures ++ failures') =
      reporter.tell failures ++ (reporter.after failures).tell failures' := by
  induction failures generalizing reporter with
  | nil => rfl
  | cons failure failures ih =>
    rw [List.cons_append, tell, tell, ih]
    rfl

theorem map_failure_tell (reporter : MissingLinkReporter) (failures : List Failure) :
    (reporter.tell failures).map (·.failure) = failures := by
  induction failures generalizing reporter with
  | nil => rfl
  | cons failure failures ih => rw [tell, List.map_cons, ih]

theorem interval_after (reporter : MissingLinkReporter) (failures : List Failure) :
    (reporter.after failures).interval = reporter.interval := by
  induction failures generalizing reporter with
  | nil => rfl
  | cons failure failures ih =>
    refine (ih (reporter.judge failure).2).trans ?_
    cases hReported : (reporter.judge failure).1 with
    | true => rw [judge_of_reported hReported]
    | false => rw [judge_of_not_reported hReported]

/-- **A reporter remembers the most recent failure that was reported.** -/
theorem last_after (reporter : MissingLinkReporter) (failures : List Failure) :
    (reporter.after failures).last =
      ((lastReport? (reporter.tell failures)).map fun last => (last.name, last.moment)).or
        reporter.last := by
  induction failures generalizing reporter with
  | nil => rfl
  | cons failure failures ih =>
    refine (ih (reporter.judge failure).2).trans ?_
    rw [tell, lastReport?_cons]
    cases lastReport? ((reporter.judge failure).2.tell failures) with
    | some last => rfl
    | none =>
      cases hReported : (reporter.judge failure).1 with
      | true => rw [judge_of_reported hReported]; rfl
      | false => rw [judge_of_not_reported hReported]; rfl

/-- Each answer is what the reporter says after the failures before it. -/
theorem tell_eq_append_cons {before later : List Answer} {answer : Answer}
    (h : reporter.tell failures = before ++ answer :: later) :
    reporter.tell (before.map (·.failure)) = before ∧
      ((reporter.after (before.map (·.failure))).judge answer.failure).1 = answer.reported ∧
      ((reporter.after (before.map (·.failure))).judge answer.failure).2.tell
        (later.map (·.failure)) = later := by
  have hFailures : failures =
      before.map (·.failure) ++ answer.failure :: later.map (·.failure) := by
    rw [← map_failure_tell reporter failures, h, List.map_append, List.map_cons]
  have hLength : (reporter.tell (before.map (·.failure))).length = before.length := by
    rw [← List.length_map, map_failure_tell, List.length_map]
  rw [hFailures, tell_append, tell] at h
  obtain ⟨hBefore, hLater⟩ := List.append_inj h hLength
  rw [List.cons.injEq] at hLater
  exact ⟨hBefore, congrArg Answer.reported hLater.1, hLater.2⟩

/-- **A failure that is not reported could as well be left out.** -/
theorem tell_without {before later : List Answer} {answer : Answer}
    (h : reporter.tell failures = before ++ answer :: later) (hSilent : answer.reported = false) :
    reporter.tell ((before ++ later).map (·.failure)) = before ++ later := by
  obtain ⟨hBefore, hAnswer, hLater⟩ := tell_eq_append_cons h
  rw [judge_of_not_reported (hAnswer.trans hSilent)] at hLater
  rw [List.map_append, tell_append, hBefore, hLater]

/-- A failure is reported if it is not exempt and does not repeat the most recent report. -/
theorem reported_iff {interval : Duration} {before later : List Answer} {answer : Answer}
    (hTimes : failures.Pairwise fun earlier later => earlier.moment ≤ later.moment)
    (h : tell { interval } failures = before ++ answer :: later) :
    answer.reported = true ↔ ¬answer.failure.IsExempt ∧
      ¬∃ last, lastReport? before = some last ∧ answer.failure.Repeats last interval := by
  obtain ⟨hBefore, hAnswer, _⟩ := tell_eq_append_cons h
  have hLast := last_after { interval } (before.map (·.failure))
  rw [hBefore, Option.or_none] at hLast
  have hPast : ∀ last, lastReport? before = some last → last.moment ≤ answer.failure.moment := by
    intro last hReport
    rw [← map_failure_tell { interval } failures, h, List.map_append, List.pairwise_append]
      at hTimes
    exact hTimes.2.2 last (List.mem_map_of_mem (mem_of_lastReport? hReport)) _ List.mem_cons_self
  rw [← hAnswer, judge_iff hLast hPast, interval_after]

/-- **Reports follow the history of reports.** However failures follow each other, each of them gets
an answer. It is reported exactly if it is no negative acknowledgement and no probe, and the most
recent report before it is not of the same name and less than the interval ago. So two reports of one
name are at least the interval apart if no other name is reported between them, failures that are not
reported change no other answer, and a name other than that of the last report is always reported. -/
theorem reports_follow_history (interval : Duration) (failures : List Failure)
    (hTimes : failures.Pairwise fun earlier later => earlier.moment ≤ later.moment) :
    let reporter : MissingLinkReporter := { interval }
    let answers := reporter.tell failures
    answers.map (·.failure) = failures ∧
    (∀ before answer later, answers = before ++ answer :: later →
      (answer.reported = true ↔ ¬answer.failure.IsExempt ∧
        ¬∃ last, lastReport? before = some last ∧ answer.failure.Repeats last interval)) ∧
    (∀ before first between second later,
      answers = before ++ first :: (between ++ second :: later) →
      first.reported = true → second.reported = true →
      second.failure.name = first.failure.name →
      (∀ other ∈ between, other.reported = true → other.failure.name = first.failure.name) →
      first.failure.moment + interval ≤ second.failure.moment) ∧
    (∀ before answer later, answers = before ++ answer :: later → answer.reported = false →
      reporter.tell ((before ++ later).map (·.failure)) = before ++ later) ∧
    (∀ before answer later, answers = before ++ answer :: later → ¬answer.failure.IsExempt →
      (∀ last, lastReport? before = some last → last.name ≠ answer.failure.name) →
      answer.reported = true) := by
  intro reporter answers
  refine ⟨map_failure_tell reporter failures, fun _ _ _ => reported_iff hTimes, ?_,
    fun _ _ _ => tell_without, ?_⟩
  · intro before first between second later hAnswers hFirst hSecond hName hBetween
    have hSorted := hTimes
    rw [← map_failure_tell reporter failures, show reporter.tell failures = _ from hAnswers,
      List.map_append, List.pairwise_append, List.map_cons, List.pairwise_cons] at hSorted
    obtain ⟨last, hLast, hMem⟩ := lastReport?_append_cons before between hFirst
    -- the most recent report before the second one is of the same name, and not before the first
    have hSame : last.name = second.failure.name := by
      rcases List.mem_cons.1 hMem with rfl | hOther
      · exact hName.symm
      · exact (hBetween _ hOther rfl).trans hName.symm
    have hAfter : first.failure.moment ≤ last.moment := by
      rcases List.mem_cons.1 hMem with rfl | hOther
      · exact Nat.le_refl _
      · refine hSorted.2.1.1 last (List.mem_map_of_mem (List.mem_append_left _ hOther))
    rw [← List.cons_append, ← List.append_assoc] at hAnswers
    have hApart := ((reported_iff hTimes hAnswers).1 hSecond).2
    have hLate : last.moment + interval ≤ second.failure.moment :=
      Nat.le_of_not_lt fun hSoon => hApart ⟨last, hLast, hSame, hSoon⟩
    exact Nat.le_trans (Nat.add_le_add_right hAfter interval) hLate
  · intro before answer later hAnswers hCounts hOther
    refine (reported_iff hTimes hAnswers).2 ⟨hCounts, ?_⟩
    rintro ⟨last, hLast, hRepeats⟩
    exact hOther last hLast hRepeats.1

/-- A lamp is missed at once, just before and just at the end of the interval, and a probe and an
acknowledgement fail in between. Then an arm is missed, and so the lamp is reported again. -/
theorem lamp_reported_again :
    let lamp (millisecond : Nat) : Failure :=
      ⟨"lamp/on", "lamp", [1], Duration.milliseconds millisecond⟩
    let failures : List Failure :=
      [lamp 0, lamp 999, ⟨"arm/rsch-7", "arm", [1], Duration.milliseconds 999⟩,
        ⟨"arm", "arm", Payload.negativeAck, Duration.milliseconds 999⟩, lamp 1000,
        ⟨"arm", "arm", [], Duration.milliseconds 1000⟩, lamp 1001]
    let reporter : MissingLinkReporter := {}
    (reporter.tell failures).map (·.reported) = [true, false, false, false, true, true, true] ∧
      (reporter.tell [lamp 0, lamp 1000]).map (·.reported) = [true, true] ∧
      (lamp 0).moment + Duration.milliseconds 1000 ≤ (lamp 1000).moment := by
  intro lamp failures reporter
  have hTimes : failures.Pairwise fun earlier later => earlier.moment ≤ later.moment := by
    decide
  obtain ⟨_, _, hApart, _, _⟩ :=
    reports_follow_history (Duration.milliseconds 1000) failures hTimes
  have hAnswers : (reporter.tell failures).map (·.reported) =
      [true, false, false, false, true, true, true] := by
    decide +kernel
  refine ⟨hAnswers, by decide +kernel, ?_⟩
  refine hApart [] ⟨lamp 0, true⟩ (((reporter.tell failures).drop 1).take 3) ⟨lamp 1000, true⟩
    ((reporter.tell failures).drop 5) (by decide +kernel) rfl rfl rfl (by decide +kernel)

end MissingLinkReporter

end RobotBus
