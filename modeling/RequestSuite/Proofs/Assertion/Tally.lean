import Mathlib.Data.List.Forall2
import RequestSuite.Assertion.Report

/-!
# What a report counts

A report keeps its counts beside its assertions, and adding an assertion keeps them right
(`Report.Tallied`).  An assertion has a message just if it did not pass, in whichever way it was
made (`Assertion.IsExplained`).  How many assertions a test gives is said without the evaluation:
`Assertion.Yields` has one case for each way in which a test can end, and of the keys of a map of
operators those count that `Assertion.counted` leaves.  `TestSection.run_tallied` puts all this
together for a whole run.
-/

namespace RequestSuite

/-! ## Messages -/

namespace Assertion

/-- Whether an assertion has a message just if it did not pass. -/
def IsExplained (a : Assertion) : Prop :=
  a.message.isSome = true ↔ a.passed = false

section

variable (source : Source) (operator : String) (expected : Value) (received : Option Value)

theorem isExplained_success : (success source operator expected received).IsExplained := by
  simp [IsExplained, success]

theorem isExplained_failure (message : String) :
    (failure source operator expected received message).IsExplained := by
  simp [IsExplained, failure]

theorem isExplained_error (fault : TestFault) :
    (error source operator expected received fault).IsExplained :=
  isExplained_failure source operator expected received fault.message

theorem isExplained_finish (outcome : Except TestFault Bool) :
    (finish source operator expected received outcome).IsExplained := by
  rcases outcome with fault | _ | _
  · exact isExplained_error source operator expected received fault
  · exact isExplained_failure source operator expected received _
  · exact isExplained_success source operator expected received

end

end Assertion

/-! ## Counts -/

namespace Report

/-- Whether the counts of a report are those of its assertions. -/
structure Tallied (r : Report) : Prop where
  total : r.total = r.results.length
  failed : r.failed = (r.results.filter fun a => !a.passed).length

theorem tallied_empty : empty.Tallied :=
  ⟨rfl, rfl⟩

variable {r : Report}

theorem Tallied.push (h : r.Tallied) (a : Assertion) : (r.push a).Tallied where
  total := by rw [results_push, List.length_append, ← h.total]; rfl
  failed := by
    rw [results_push, List.filter_append, List.length_append, ← h.failed, Report.push]
    cases ha : a.passed <;> simp [ha]

theorem Tallied.pushAll (h : r.Tallied) (as : List Assertion) : (r.pushAll as).Tallied := by
  induction as generalizing r with
  | nil => exact h
  | cons a rest ih => exact ih (h.push a)

theorem Tallied.checkAll (h : r.Tallied) (response : Response) (leaves : List (Source × Value)) :
    (leaves.foldl (check response) r).Tallied := by
  induction leaves generalizing r with
  | nil => exact h
  | cons leaf rest ih => exact ih (h.pushAll _)

theorem Tallied.failed_le (h : r.Tallied) : r.failed ≤ r.total := by
  rw [h.total, h.failed]
  exact List.length_filter_le _ _

theorem Tallied.passed_add_failed (h : r.Tallied) : r.passed + r.failed = r.total :=
  Nat.sub_add_cancel h.failed_le

/-- No assertion failed if and only if all have passed. -/
theorem Tallied.allPassed_iff (h : r.Tallied) :
    r.allPassed = true ↔ ∀ a ∈ r.results, a.passed = true := by
  rw [allPassed, beq_iff_eq, h.failed, List.length_eq_zero_iff, List.filter_eq_nil_iff]
  simp

theorem Tallied.allPassed_eq_false_iff (h : r.Tallied) :
    r.allPassed = false ↔ ∃ a ∈ r.results, a.passed = false := by
  rw [← Bool.not_eq_true, h.allPassed_iff]
  simp only [not_forall, Bool.not_eq_true, exists_prop]

/-- What a report says of the assertions it was made of. -/
structure Accounts (r : Report) (assertions : List Assertion) : Prop where
  results : r.results = assertions
  total : r.total = assertions.length
  failed : r.failed = (assertions.filter fun a => a.passed = false).length
  /-- The subtraction by which the passed assertions are counted is exact. -/
  failed_le : r.failed ≤ r.total
  passed_add_failed : r.passed + r.failed = r.total
  message : ∀ a ∈ assertions, a.message.isSome = true ↔ a.passed = false

theorem Tallied.accounts (h : r.Tallied) (hexplained : ∀ a ∈ r.results, a.IsExplained) :
    r.Accounts r.results where
  results := rfl
  total := h.total
  failed := by rw [h.failed]; simp only [Bool.decide_eq_false]
  failed_le := h.failed_le
  passed_add_failed := h.passed_add_failed
  message := hexplained

end Report

/-! ## The assertions of one test -/

namespace Assertion

/-- The fields of a map of operators that count: a pattern and its flags count once, where the
first of them stands. -/
def counted : List (String × Value) → List (String × Value)
  | [] => []
  | field :: rest =>
    if Operator.isPatternKey field.1 then field :: rest.filter fun f => !Operator.isPatternKey f.1
    else field :: counted rest

/-- Whether an assertion is what a field of a map of operators gives. -/
structure Scores (source : Source) (operators : Table Value) (received : Option Value)
    (field : String × Value) (a : Assertion) : Prop where
  source : a.source = source
  received : a.received = received
  /-- A pattern and its flags are shown as the pattern. -/
  pattern : Operator.isPatternKey field.1 = true → a.operator = Operator.pattern.key ∧
    a.expected = (operators.get? Operator.pattern.key).getD .null
  other : Operator.isPatternKey field.1 = false → a.operator = field.1 ∧ a.expected = field.2
  /-- A key that is no operator fails. -/
  unknown : Operator.isPatternKey field.1 = false → (∀ op : Operator, op.key ≠ field.1) →
    a.passed = false ∧ a.message = some ("invalid operator '" ++ field.1 ++ "'")

section

variable (source : Source) (operators : Table Value) (received : Option Value)

/-- The assertion that one field of a map of operators gives. -/
def ofField (field : String × Value) : Assertion :=
  match Operator.ofKey? field.1 with
  | some .pattern => ofPattern source operators received
  | some op => ofOperator source op field.2 received
  | none => error source field.1 field.2 received (.unknownOperator field.1)

theorem ofField_of_isPatternKey {field : String × Value}
    (h : Operator.isPatternKey field.1 = true) :
    ofField source operators received field = ofPattern source operators received := by
  simp only [ofField, Operator.ofKey?_of_isPatternKey h]

/-- A field that belongs to no pattern is compared by its own operator, or names none. -/
theorem ofField_cases {field : String × Value} (h : Operator.isPatternKey field.1 = false) :
    (∃ op, op.key = field.1 ∧ op ≠ .pattern ∧ Operator.ofKey? field.1 = some op ∧
      ofField source operators received field = ofOperator source op field.2 received) ∨
    (Operator.ofKey? field.1 = none ∧ ofField source operators received field =
      error source field.1 field.2 received (.unknownOperator field.1)) := by
  rcases hop : Operator.ofKey? field.1 with _ | op
  · exact .inr ⟨rfl, by simp only [ofField, hop]⟩
  · have hne : op ≠ .pattern := by
      rintro rfl
      exact absurd (h.symm.trans (Operator.isPatternKey_of_ofKey? hop)) nofun
    exact .inl ⟨op, Operator.key_of_ofKey? hop h, hne, rfl, by simp only [ofField, hop]⟩

theorem scores_ofField (field : String × Value) :
    Scores source operators received field (ofField source operators received field) := by
  by_cases hkey : Operator.isPatternKey field.1 = true
  · rw [ofField_of_isPatternKey source operators received hkey]
    exact {
      source := source_finish ..
      received := received_finish ..
      pattern := fun _ => ⟨operator_finish .., expected_finish ..⟩
      other := fun hother => absurd (hkey.symm.trans hother) nofun
      unknown := fun hother => absurd (hkey.symm.trans hother) nofun }
  · have hother : Operator.isPatternKey field.1 = false := by simpa using hkey
    obtain ⟨op, hop, -, -, heq⟩ | ⟨-, heq⟩ := ofField_cases source operators received hother
    · rw [heq]
      exact {
        source := source_finish ..
        received := received_finish ..
        pattern := fun hpattern => absurd hpattern hkey
        other := fun _ => ⟨(operator_finish ..).trans hop, expected_finish ..⟩
        unknown := fun _ hnone => absurd hop (hnone op) }
    · rw [heq]
      exact {
        source := rfl
        received := rfl
        pattern := fun hpattern => absurd hpattern hkey
        other := fun _ => ⟨rfl, rfl⟩
        unknown := fun _ _ => ⟨rfl, rfl⟩ }

theorem isExplained_ofField (field : String × Value) :
    (ofField source operators received field).IsExplained := by
  unfold ofField
  split
  · exact isExplained_finish ..
  · exact isExplained_finish ..
  · exact isExplained_error ..

/-! What the first of the remaining keys gives: nothing if it belongs to a pattern that has been
counted, and one assertion otherwise. -/

theorem ofKeys_cons_pattern (done : Bool) {field : String × Value}
    (h : Operator.isPatternKey field.1 = true) (rest : List (String × Value)) :
    ofKeys source operators received done (field :: rest) =
      (if done then [] else [ofField source operators received field]) ++
        ofKeys source operators received true rest := by
  rw [ofField_of_isPatternKey source operators received h]
  obtain ⟨key, expected⟩ := field
  have hop := Operator.ofKey?_of_isPatternKey h
  cases done with
  | true => simp only [ofKeys, hop, if_true, List.nil_append]
  | false => simp only [ofKeys, hop, Bool.false_eq_true, if_false, List.singleton_append]

theorem ofKeys_cons_other (done : Bool) {field : String × Value}
    (h : Operator.isPatternKey field.1 = false) (rest : List (String × Value)) :
    ofKeys source operators received done (field :: rest) =
      ofField source operators received field :: ofKeys source operators received done rest := by
  obtain ⟨op, -, hne, hop, heq⟩ | ⟨hop, heq⟩ := ofField_cases source operators received h
  · rw [heq]
    obtain ⟨key, expected⟩ := field
    cases op with
    | pattern => exact absurd rfl hne
    | _ => simp only [ofKeys, hop]
  · rw [heq]
    obtain ⟨key, expected⟩ := field
    simp only [ofKeys, hop]

/-- After a pattern has been counted, only the other keys count. -/
theorem ofKeys_done (fields : List (String × Value)) :
    ofKeys source operators received true fields =
      (fields.filter fun f => !Operator.isPatternKey f.1).map
        (ofField source operators received) := by
  induction fields with
  | nil => rfl
  | cons field rest ih =>
    by_cases hkey : Operator.isPatternKey field.1 = true
    · rw [ofKeys_cons_pattern source operators received true hkey, ih,
        List.filter_cons_of_neg (by simp [hkey])]
      rfl
    · rw [ofKeys_cons_other source operators received true (by simpa using hkey), ih,
        List.filter_cons_of_pos (by simp [hkey]), List.map_cons]

/-- Each field that counts gives its assertion. -/
theorem ofKeys_eq_map (fields : List (String × Value)) :
    ofKeys source operators received false fields =
      (counted fields).map (ofField source operators received) := by
  induction fields with
  | nil => rfl
  | cons field rest ih =>
    by_cases hkey : Operator.isPatternKey field.1 = true
    -- From the first key of a pattern on, the rest is no longer counted by this recursion.
    · rw [ofKeys_cons_pattern source operators received false hkey, ofKeys_done, counted,
        if_pos hkey, List.map_cons]
      rfl
    · rw [ofKeys_cons_other source operators received false (by simpa using hkey), ih, counted,
        if_neg hkey, List.map_cons]

theorem scores_ofKeys (fields : List (String × Value)) :
    List.Forall₂ (Scores source operators received) (counted fields)
      (ofKeys source operators received false fields) := by
  rw [ofKeys_eq_map]
  exact List.forall₂_map_right_iff.mpr
    (List.forall₂_same.mpr fun field _ => scores_ofField source operators received field)

/-- The flags come first here, so the pattern counts in their place. -/
example : counted [("$options", .string "i"), ("$eq", .null), ("$regex", .string "a")] =
    [("$options", .string "i"), ("$eq", .null)] := by decide

end

/-- How a test ends: with one failure if its place cannot be looked at, with one assertion if its
expected value has no operators, and otherwise with one for each key that counts. -/
inductive Yields (response : Response) : Source × Value → List Assertion → Prop
  | invalidBody {path : String} {expected : Value} {fault : Json.Fault}
    (hbody : response.json = .error fault) :
    Yields response (.json path, expected)
      [error (.json path) (shownOperator expected) expected none (.invalidBody fault.message)]
  | invalidPath {path : String} {expected document : Value} {fault : PathError}
    (hbody : response.json = .ok document) (hpath : Path.query document path = .error fault) :
    Yields response (.json path, expected)
      [error (.json path) (shownOperator expected) expected none (.invalidPath fault.message)]
  | plain {source : Source} {expected : Value} {received : Option Value}
    (hfound : source.extract response = .ok received)
    (hplain : ∀ field rest, expected ≠ .object (field :: rest)) :
    Yields response (source, expected) [ofOperator source .equal expected received]
  | operators {source : Source} {received : Option Value} {field : String × Value}
    {rest : List (String × Value)} {results : List Assertion}
    (hfound : source.extract response = .ok received)
    (hscores : List.Forall₂ (Scores source (field :: rest) received) (counted (field :: rest))
      results) :
    Yields response (source, .object (field :: rest)) results

/-- Every assertion of a test has a message just if it did not pass. -/
theorem isExplained_of_mem_evaluate {source : Source} {expected : Value}
    {received : Except TestFault (Option Value)} {a : Assertion}
    (ha : a ∈ evaluate source expected received) : a.IsExplained := by
  unfold evaluate at ha
  split at ha
  · obtain rfl := List.mem_singleton.mp ha
    exact isExplained_error ..
  · split at ha
    · rw [ofKeys_eq_map] at ha
      obtain ⟨field, -, rfl⟩ := List.mem_map.mp ha
      exact isExplained_ofField ..
    · obtain rfl := List.mem_singleton.mp ha
      exact isExplained_finish ..

/-- Only a path can fail to be looked up: its body is no document, or the path is no path. -/
theorem extract_eq_error {source : Source} {response : Response} {fault : TestFault}
    (h : source.extract response = .error fault) : ∃ path, source = .json path ∧
      ((∃ f, response.json = .error f ∧ fault = .invalidBody f.message) ∨
        ∃ document e, response.json = .ok document ∧ Path.query document path = .error e ∧
          fault = .invalidPath e.message) := by
  cases source with
  | status => cases h
  | body => cases h
  | header name => cases h
  | json path =>
    refine ⟨path, rfl, ?_⟩
    rw [Source.extract] at h
    split at h
    · rename_i f hbody
      cases h
      exact .inl ⟨f, hbody, rfl⟩
    · rename_i document hbody
      split at h
      · rename_i e hpath
        cases h
        exact .inr ⟨document, e, hbody, hpath, rfl⟩
      · cases h

theorem yields_evaluate (response : Response) (leaf : Source × Value) :
    Yields response leaf (evaluate leaf.1 leaf.2 (leaf.1.extract response)) := by
  obtain ⟨source, expected⟩ := leaf
  rcases hfound : source.extract response with fault | received
  · obtain ⟨path, rfl, ⟨f, hbody, rfl⟩ | ⟨document, e, hbody, hpath, rfl⟩⟩ :=
      extract_eq_error hfound
    · exact .invalidBody hbody
    · exact .invalidPath hbody hpath
  · unfold evaluate
    simp only
    split
    · exact .operators hfound (scores_ofKeys source _ received _)
    · rename_i hplain
      exact .plain hfound hplain

end Assertion

/-! ## A whole run -/

namespace TestSection

variable (t : TestSection) (stopOnFailure : Bool) (response : Response)

/-- The test of the status, if there is one. -/
def statusLeaf : List (Source × Value) :=
  (t.status.map (Source.status, ·)).toList

/-- The assertions of some tests, test by test. -/
def assertions (leaves : List (Source × Value)) : List (List Assertion) :=
  leaves.map fun leaf => Assertion.evaluate leaf.1 leaf.2 (leaf.1.extract response)

/-- The tests that are evaluated: only that of the status if it fails and a failure stops the others,
and all of them otherwise. -/
def evaluated : List (Source × Value) :=
  if stopOnFailure ∧ ∃ a ∈ (assertions response t.statusLeaf).flatten, a.passed = false
  then t.statusLeaf else t.leaves

theorem tallied_run : (t.run stopOnFailure response).Tallied := by
  have hfirst := Report.tallied_empty.checkAll response t.statusLeaf
  unfold run
  simp only
  split
  · exact hfirst
  · exact hfirst.checkAll response t.afterStatus

theorem results_checked (r : Report) (leaves : List (Source × Value)) :
    (leaves.foldl (Report.check response) r).results =
      r.results ++ (assertions response leaves).flatten :=
  Report.results_checkAll response r leaves

/-- What has been checked first passes, unless the test of the status fails. -/
theorem allPassed_statusLeaf :
    (t.statusLeaf.foldl (Report.check response) .empty).allPassed = false ↔
      ∃ a ∈ (assertions response t.statusLeaf).flatten, a.passed = false := by
  rw [(Report.tallied_empty.checkAll response t.statusLeaf).allPassed_eq_false_iff, results_checked]
  rfl

theorem results_run_evaluated : (t.run stopOnFailure response).results =
    (assertions response (t.evaluated stopOnFailure response)).flatten := by
  have hrun : t.run stopOnFailure response =
      if stopOnFailure ∧ (t.statusLeaf.foldl (Report.check response) .empty).allPassed = false
      then t.statusLeaf.foldl (Report.check response) .empty
      else t.afterStatus.foldl (Report.check response)
        (t.statusLeaf.foldl (Report.check response) .empty) :=
    if_congr (by rw [Bool.and_eq_true, Bool.not_eq_true']; rfl) rfl rfl
  simp only [hrun, allPassed_statusLeaf, evaluated]
  split
  · rw [results_checked]
    rfl
  · rw [results_checked, results_checked, leaves, assertions, assertions, assertions,
      List.map_append, List.flatten_append]
    rfl

theorem isExplained_of_mem_assertions {leaves : List (Source × Value)} {a : Assertion}
    (ha : a ∈ (assertions response leaves).flatten) : a.IsExplained := by
  obtain ⟨part, hpart, ha⟩ := List.mem_flatten.mp ha
  obtain ⟨leaf, -, rfl⟩ := List.mem_map.mp hpart
  exact Assertion.isExplained_of_mem_evaluate ha

/-- **A report counts what it holds, and each test gives what it has to.**  The assertions of a run
are those of the evaluated tests, one test after the other. -/
theorem run_tallied : ∃ parts : List (List Assertion),
    (t.run stopOnFailure response).Accounts parts.flatten ∧
      List.Forall₂ (Assertion.Yields response) (t.evaluated stopOnFailure response) parts := by
  refine ⟨assertions response (t.evaluated stopOnFailure response), ?_, ?_⟩
  · have hresults := t.results_run_evaluated stopOnFailure response
    rw [← hresults]
    refine (t.tallied_run stopOnFailure response).accounts fun a ha => ?_
    rw [hresults] at ha
    exact isExplained_of_mem_assertions response ha
  · exact List.forall₂_map_right_iff.mpr
      (List.forall₂_same.mpr fun leaf _ => Assertion.yields_evaluate response leaf)

end TestSection

end RequestSuite
