import RequestSuite.Proofs.Assertion.Tally

/-!
# Stopping at the status

A run that stops on a failure looks at its counts after the test of the status and goes no further
if something has failed.  The counts are those of the status alone then, however many operators its
test has, so the report that such a run gives is the beginning of the report that it would give
otherwise (`TestSection.run_shortened`).  What is left out cannot change whether all assertions
passed.
-/

namespace RequestSuite

/-- Two reports with right counts are the same if their assertions are. -/
theorem Report.Tallied.eq_of_results {r r' : Report} (h : r.Tallied) (h' : r'.Tallied)
    (heq : r.results = r'.results) : r = r' := by
  have htotal : r.total = r'.total := by rw [h.total, h'.total, heq]
  have hfailed : r.failed = r'.failed := by rw [h.failed, h'.failed, heq]
  cases r
  cases r'
  simp only at heq htotal hfailed
  rw [heq, htotal, hfailed]

/-- A report is cut off after its first assertions if one of these has failed. -/
structure Report.Shortens (first : List Assertion) (short full : Report) : Prop where
  begins : short.results <+: full.results
  whole : (∀ a ∈ first, a.passed = true) → short = full
  cut : (∃ a ∈ first, a.passed = false) → short.results = first
  /-- Both reports say the same about whether all assertions passed. -/
  allPassed : short.allPassed = full.allPassed
  /-- The counts of the short report are those of its own assertions. -/
  tallied : short.Tallied

namespace TestSection

variable (t : TestSection) (response : Response)

/-- The assertions of the test of the status; none if there is no such test. -/
def statusAssertions : List Assertion :=
  match t.status with
  | none => []
  | some expected => Assertion.evaluate .status expected (Source.status.extract response)

theorem flatten_statusLeaf :
    (assertions response t.statusLeaf).flatten = t.statusAssertions response := by
  unfold statusAssertions statusLeaf
  cases t.status with
  | none => rfl
  | some expected => exact List.append_nil _

theorem results_run_whole : (t.run false response).results =
    t.statusAssertions response ++ (assertions response t.afterStatus).flatten := by
  rw [results_run_evaluated, evaluated, if_neg (by simp), leaves, ← flatten_statusLeaf,
    ← List.flatten_append, assertions, assertions, assertions, List.map_append]
  rfl

theorem results_run_of_passed (h : ∀ a ∈ t.statusAssertions response, a.passed = true) :
    (t.run true response).results = (t.run false response).results := by
  have hnone : ¬ ∃ a ∈ (assertions response t.statusLeaf).flatten, a.passed = false := by
    rintro ⟨a, ha, hfailed⟩
    rw [flatten_statusLeaf] at ha
    simp [h a ha] at hfailed
  rw [results_run_evaluated, results_run_evaluated, evaluated, evaluated,
    if_neg fun hstop => hnone hstop.2, if_neg (by simp)]

theorem results_run_of_failed (h : ∃ a ∈ t.statusAssertions response, a.passed = false) :
    (t.run true response).results = t.statusAssertions response := by
  rw [← flatten_statusLeaf] at h ⊢
  rw [results_run_evaluated, evaluated, if_pos ⟨rfl, h⟩]

/-- **Stopping at the status.**  A run that stops on a failure gives the beginning of what it gives
otherwise: all of it if there is no test of the status or all assertions of the status pass, and the
assertions of the status if one of them fails.  It says the same about whether all assertions
passed. -/
theorem run_shortened :
    Report.Shortens (t.statusAssertions response) (t.run true response) (t.run false response) := by
  have hshort := t.tallied_run true response
  have hfull := t.tallied_run false response
  by_cases hpassed : ∀ a ∈ t.statusAssertions response, a.passed = true
  · have heq : t.run true response = t.run false response :=
      hshort.eq_of_results hfull (t.results_run_of_passed response hpassed)
    refine ⟨heq ▸ List.prefix_rfl, fun _ => heq, ?_, congrArg _ heq, hshort⟩
    rintro ⟨a, ha, hfailed⟩
    simp [hpassed a ha] at hfailed
  · obtain ⟨a, ha, hfailed⟩ : ∃ a ∈ t.statusAssertions response, a.passed = false := by
      simpa using hpassed
    have hcut := t.results_run_of_failed response ⟨a, ha, hfailed⟩
    have hwhole := t.results_run_whole response
    -- The assertion that failed stands in both reports.
    have hmem : a ∈ (t.run true response).results := by
      rw [hcut]
      exact ha
    have hmem' : a ∈ (t.run false response).results := by
      rw [hwhole]
      exact List.mem_append_left _ ha
    refine ⟨?_, fun h => absurd h hpassed, fun _ => hcut, ?_, hshort⟩
    · rw [hcut, hwhole]
      exact List.prefix_append _ _
    · rw [hshort.allPassed_eq_false_iff.mpr ⟨a, hmem, hfailed⟩,
        hfull.allPassed_eq_false_iff.mpr ⟨a, hmem', hfailed⟩]

/-- Of the two assertions of the status one fails, and both are kept. -/
example :
    let status : Value := .object [("$type", .string "number"), ("$eq", .number (.int 200))]
    let t : TestSection := { status := some status, body := some (.string "gone") }
    let r := Response.answered (.ofLines ⟨404, by decide, by decide⟩ "HTTP/1.1" [] "gone") 0
    ((t.run true r).results.map Assertion.passed, (t.run false r).results.map Assertion.passed) =
      ([true, false], [true, false, true]) := by
  decide

end TestSection

end RequestSuite
