import RequestSuite.Proofs.Assertion.Tally
import RequestSuite.Run.Result

/-!
# What a summary counts

A summary is made in one pass over the results, and yet it is the sum of what the single results
contribute (`Summary.foldl_add`).  So every counter is a sum over the results, and what holds
between counters has to be shown for one result only: there it comes from the report, whose counts
are those of its assertions as long as these were added to it.  `Summary.ofResults_accounts` says
what each counter is, and that success can be read from the counters as well as from the results.
-/

namespace RequestSuite

/-! ## The parts of a result -/

namespace Report

/-- The reports that come from the empty one by adding assertions, one or several at a time. -/
inductive Built : Report → Prop
  | empty : Built .empty
  | push {r : Report} (h : Built r) (a : Assertion) : Built (r.push a)
  | pushAll {r : Report} (h : Built r) (as : List Assertion) : Built (r.pushAll as)

theorem Built.tallied {r : Report} (h : r.Built) : r.Tallied := by
  induction h with
  | empty => exact tallied_empty
  | push _ a ih => exact ih.push a
  | pushAll _ as ih => exact ih.pushAll as

theorem Tallied.failed_eq_countP {r : Report} (h : r.Tallied) :
    r.failed = r.results.countP fun a => !a.passed := by
  rw [h.failed, List.countP_eq_length_filter]

theorem Tallied.passed_eq_countP {r : Report} (h : r.Tallied) :
    r.passed = r.results.countP fun a => a.passed := by
  have hsplit := List.length_eq_countP_add_countP (fun a : Assertion => a.passed) (l := r.results)
  have hsum := h.passed_add_failed
  simp only [Bool.not_eq_true, Bool.decide_eq_false] at hsplit
  rw [h.failed_eq_countP, h.total] at hsum
  omega

end Report

/-- The ways in which a request can end. -/
inductive Ending where
  | completed
  | failed
  | invalid
  | cancelled
  | notRun
deriving DecidableEq, Repr

/-- How a request ended. -/
def Outcome.ending : Outcome → Ending
  | .completed _ _ _ => .completed
  | .failed _ => .failed
  | .invalid _ => .invalid
  | .cancelled => .cancelled
  | .notRun => .notRun

namespace Result

/-- The evaluated tests; none if the request was not answered. -/
def assertions (r : Result) : List Assertion :=
  r.report?.elim [] Report.results

/-- Whether the report, if there is one, was built by adding assertions. -/
def HasBuiltReport (r : Result) : Prop :=
  ∀ report ∈ r.report?, report.Built

theorem HasBuiltReport.tallied {r : Result} (h : r.HasBuiltReport) :
    ∀ report ∈ r.report?, report.Tallied :=
  fun report hreport => (h report hreport).tallied

end Result

namespace Summary

/-! ## Sums of summaries -/

/-- How many requests ended in a way. -/
def counter (s : Summary) : Ending → Nat
  | .completed => s.completed
  | .failed => s.failed
  | .invalid => s.invalid
  | .cancelled => s.cancelled
  | .notRun => s.notRun

/-- The sum of two summaries, counter by counter. -/
def plus (s t : Summary) : Summary where
  total := s.total + t.total
  completed := s.completed + t.completed
  failed := s.failed + t.failed
  invalid := s.invalid + t.invalid
  cancelled := s.cancelled + t.cancelled
  notRun := s.notRun + t.notRun
  duration := s.duration + t.duration
  assertions := s.assertions + t.assertions
  passedAssertions := s.passedAssertions + t.passedAssertions
  failedAssertions := s.failedAssertions + t.failedAssertions
  captureErrors := s.captureErrors + t.captureErrors

theorem plus_assoc (s t u : Summary) : (s.plus t).plus u = s.plus (t.plus u) := by
  simp only [plus, Nat.add_assoc]

/-- What one result contributes. -/
def single (r : Result) : Summary :=
  add {} r

theorem add_eq_plus_single (s : Summary) (r : Result) : s.add r = s.plus (single r) := by
  unfold single add
  cases r.outcome <;> simp [count, plus]

/-- Going on from a summary adds the summary of the further results to it. -/
theorem foldl_add (s : Summary) (results : List Result) :
    results.foldl add s = s.plus (ofResults results) := by
  induction results generalizing s with
  | nil => rfl
  | cons r rest ih =>
    have hrest : ofResults (r :: rest) = (single r).plus (ofResults rest) := ih (single r)
    rw [List.foldl_cons, ih, add_eq_plus_single, plus_assoc, hrest]

theorem ofResults_cons (r : Result) (rest : List Result) :
    ofResults (r :: rest) = (single r).plus (ofResults rest) :=
  foldl_add (single r) rest

theorem ofResults_append (results others : List Result) :
    ofResults (results ++ others) = (ofResults results).plus (ofResults others) := by
  rw [ofResults, List.foldl_append]
  exact foldl_add _ others

/-! ## What the counters count -/

/-- What a summary tells about the results that it was made of. -/
structure Accounts (s : Summary) (results : List Result) : Prop where
  total : s.total = results.length
  counter : ∀ ending, s.counter ending = results.countP fun r => r.outcome.ending = ending
  /-- Every result is counted under just one ending. -/
  endings : s.completed + s.failed + s.invalid + s.cancelled + s.notRun = s.total
  assertions : s.assertions = (results.flatMap Result.assertions).length
  passed : s.passedAssertions = (results.flatMap Result.assertions).countP fun a => a.passed
  failed : s.failedAssertions = (results.flatMap Result.assertions).countP fun a => !a.passed
  passed_add_failed : s.passedAssertions + s.failedAssertions = s.assertions
  captureErrors : s.captureErrors = (results.flatMap Result.captureErrors).length

variable {r : Result} {results : List Result}

theorem accounts_empty : Accounts {} [] where
  total := rfl
  counter ending := by cases ending <;> rfl
  endings := rfl
  assertions := rfl
  passed := rfl
  failed := rfl
  passed_add_failed := rfl
  captureErrors := rfl

theorem Accounts.plus {s t : Summary} {others : List Result} (hs : s.Accounts results)
    (ht : t.Accounts others) : (s.plus t).Accounts (results ++ others) where
  total := by rw [List.length_append, ← hs.total, ← ht.total]; rfl
  counter ending := by
    rw [List.countP_append, ← hs.counter, ← ht.counter]
    cases ending <;> rfl
  endings := by
    have hsends := hs.endings
    have htends := ht.endings
    simp only [Summary.plus]
    omega
  assertions := by
    rw [List.flatMap_append, List.length_append, ← hs.assertions, ← ht.assertions]
    rfl
  passed := by rw [List.flatMap_append, List.countP_append, ← hs.passed, ← ht.passed]; rfl
  failed := by rw [List.flatMap_append, List.countP_append, ← hs.failed, ← ht.failed]; rfl
  passed_add_failed := by
    have hssplit := hs.passed_add_failed
    have htsplit := ht.passed_add_failed
    simp only [Summary.plus]
    omega
  captureErrors := by
    rw [List.flatMap_append, List.length_append, ← hs.captureErrors, ← ht.captureErrors]
    rfl

/-- A single result is counted once, and its report counts for what it holds. -/
theorem accounts_single (h : r.HasBuiltReport) : (single r).Accounts [r] := by
  obtain ⟨number, name, method, url, undefined, options, duration, outcome⟩ := r
  cases outcome with
  | completed response report errors =>
    have htallied : report.Tallied := h.tallied report rfl
    exact {
      total := rfl
      counter := fun ending => by cases ending <;> rfl
      endings := rfl
      assertions := by simp [single, add, count, Result.assertions, Result.report?, htallied.total]
      passed := by
        simp [single, add, count, Result.assertions, Result.report?, htallied.passed_eq_countP]
      failed := by
        simp [single, add, count, Result.assertions, Result.report?, htallied.failed_eq_countP]
      passed_add_failed := by simpa [single, add, count] using htallied.passed_add_failed
      captureErrors := by simp [single, add, count, Result.captureErrors] }
  | _ =>
    -- Without a report there is nothing to count but the ending.
    exact {
      total := rfl
      counter := fun ending => by cases ending <;> rfl
      endings := rfl
      assertions := rfl
      passed := rfl
      failed := rfl
      passed_add_failed := rfl
      captureErrors := rfl }

theorem accounts_ofResults (h : ∀ r ∈ results, r.HasBuiltReport) :
    (ofResults results).Accounts results := by
  induction results with
  | nil => exact accounts_empty
  | cons r rest ih =>
    obtain ⟨hr, hrest⟩ := List.forall_mem_cons.mp h
    rw [ofResults_cons]
    exact (accounts_single hr).plus (ih hrest)

/-! ## Success -/

/-- An answered request is a success if no assertion of its report failed. -/
theorem isSuccess_iff_assertions (h : r.HasBuiltReport) :
    (r.outcome.ending = .completed → r.isSuccess = true) ↔
      ∀ a ∈ r.assertions, a.passed = true := by
  obtain ⟨number, name, method, url, undefined, options, duration, outcome⟩ := r
  cases outcome with
  | completed response report errors =>
    have htallied : report.Tallied := h.tallied report rfl
    exact (forall_prop_of_true rfl).trans htallied.allPassed_iff
  | _ => exact iff_of_true nofun nofun

theorem counter_eq_zero_iff {s : Summary} (h : s.Accounts results) (ending : Ending) :
    s.counter ending = 0 ↔ ∀ r ∈ results, r.outcome.ending ≠ ending := by
  rw [h.counter, List.countP_eq_zero]
  simp only [decide_eq_true_eq, ne_eq]

theorem failedAssertions_eq_zero_iff {s : Summary} (h : s.Accounts results) :
    s.failedAssertions = 0 ↔ ∀ r ∈ results, ∀ a ∈ r.assertions, a.passed = true := by
  rw [h.failed, List.countP_eq_zero]
  simp only [List.mem_flatMap, Bool.not_eq_true', Bool.not_eq_false]
  exact ⟨fun hall r hr a ha => hall a ⟨r, hr, ha⟩, fun hall a ⟨r, hr, ha⟩ => hall r hr a ha⟩

theorem isSuccess_iff {s : Summary} (h : s.Accounts results)
    (hbuilt : ∀ r ∈ results, r.HasBuiltReport) :
    s.isSuccess = true ↔
      (∀ r ∈ results, r.outcome.ending ≠ .failed ∧ r.outcome.ending ≠ .invalid) ∧
        ∀ r ∈ results, r.outcome.ending = .completed → r.isSuccess = true := by
  have hcounters : s.isSuccess = true ↔
      (s.counter .failed = 0 ∧ s.counter .invalid = 0) ∧ s.failedAssertions = 0 := by
    simp only [isSuccess, Bool.and_eq_true, beq_iff_eq, counter]
  have hassertions : (∀ r ∈ results, r.outcome.ending = .completed → r.isSuccess = true) ↔
      ∀ r ∈ results, ∀ a ∈ r.assertions, a.passed = true :=
    forall₂_congr fun r hr => isSuccess_iff_assertions (hbuilt r hr)
  rw [hcounters, counter_eq_zero_iff h, counter_eq_zero_iff h, failedAssertions_eq_zero_iff h,
    hassertions, ← forall₂_and]

/-! ## Summaries -/

/-- **A summary counts what came of the requests.**  Every result is counted under its ending, every
assertion and every failed capture of an answered request is counted once, and no report takes more
failed assertions from its total than it holds.  Two runs together have the sum of their summaries.
A run is a success by its counters just if no request failed or was invalid and every answered
request is a success by its report. -/
theorem ofResults_accounts (results : List Result) (h : ∀ r ∈ results, r.HasBuiltReport) :
    (ofResults results).Accounts results ∧
      (∀ r ∈ results, ∀ report ∈ r.report?, report.failed ≤ report.total) ∧
      (∀ others, ofResults (results ++ others) = (ofResults results).plus (ofResults others)) ∧
      ((ofResults results).isSuccess = true ↔
        (∀ r ∈ results, r.outcome.ending ≠ .failed ∧ r.outcome.ending ≠ .invalid) ∧
          ∀ r ∈ results, r.outcome.ending = .completed → r.isSuccess = true) :=
  ⟨accounts_ofResults h, fun r hr report hreport => ((h r hr).tallied report hreport).failed_le,
    ofResults_append results, isSuccess_iff (accounts_ofResults h) h⟩

/-- A request that was answered without a body, with a report on two assertions about it. -/
def mixedResult : Result where
  number := 1
  name := "login"
  duration := 5
  outcome :=
    .completed (.answered ⟨⟨204, by decide, by decide⟩, "HTTP/1.1", [], ""⟩ 5)
      ((Report.empty.push (.finish .status "$eq" .null none (.ok true))).pushAll
        [.finish .body "$eq" .null none (.ok false)])
      [⟨⟨"token", .json "$"⟩, .noMatch⟩]

/-- One of the two assertions failed, so the run is no success although the request is the only one
that was begun. -/
theorem ofResults_accounts_mixed :
    let results : List Result := [mixedResult, { number := 2, name := "page", outcome := .notRun }]
    (∀ r ∈ results, r.HasBuiltReport) ∧
      (ofResults results).Accounts results ∧
      ofResults results = ⟨2, 1, 0, 0, 0, 1, 5, 2, 1, 1, 1⟩ ∧
      (ofResults results).isSuccess = false := by
  intro results
  have hbuilt : ∀ r ∈ results, r.HasBuiltReport := by
    refine List.forall_mem_cons.mpr ⟨?_, List.forall_mem_singleton.mpr nofun⟩
    rintro report ⟨⟩
    exact (Report.Built.empty.push _).pushAll _
  obtain ⟨haccounts, -, -, hsuccess⟩ := ofResults_accounts results hbuilt
  refine ⟨hbuilt, haccounts, by decide, ?_⟩
  rw [← Bool.not_eq_true, hsuccess]
  intro hall
  exact absurd (hall.2 mixedResult (by simp [results]) rfl) (by decide)

end Summary

end RequestSuite
