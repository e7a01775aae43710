import RequestSuite.Assertion.Evaluation

/-!
# Reports

The tests of a request are evaluated in a fixed order: the status, the body, the headers, and what
paths find in the body.  A report keeps the assertions in this order and counts them.
-/

namespace RequestSuite

/-- What a bundle says about the tests of a request. -/
structure TestSection where
  status : Option Value := none
  body : Option Value := none
  /-- Names of headers with the expected values. -/
  headers : List (String × Value) := []
  /-- Paths into the body with the expected values. -/
  json : List (String × Value) := []
deriving DecidableEq, Repr

namespace TestSection

/-- Whether there is no test. -/
def isEmpty (t : TestSection) : Bool :=
  t.status.isNone && t.body.isNone && t.headers.isEmpty && t.json.isEmpty

/-- The places and expected values of all tests after that of the status. -/
def afterStatus (t : TestSection) : List (Source × Value) :=
  (t.body.map fun v => (Source.body, v)).toList ++
    t.headers.map (fun h => (Source.header (Text.lower h.1), h.2)) ++
    t.json.map fun p => (Source.json p.1, p.2)

/-- The places and expected values of all tests, in the order of evaluation. -/
def leaves (t : TestSection) : List (Source × Value) :=
  (t.status.map fun v => (Source.status, v)).toList ++ t.afterStatus

end TestSection

/-- What a response holds at a place; nothing if the place is missing. -/
def Source.extract (source : Source) (r : Response) : Except TestFault (Option Value) :=
  match source with
  | .status => .ok (r.status?.map fun s => .number (.int s.code))
  | .body => .ok (some (.string r.body))
  | .header name => .ok ((r.header? name).map .string)
  | .json path =>
    match r.json with
    | .error fault => .error (.invalidBody fault.message)
    | .ok document =>
      match Path.query document path with
      | .error e => .error (.invalidPath e.message)
      | .ok found => .ok found

/-- Evaluated assertions with their counts. -/
structure Report where
  results : List Assertion := []
  /-- How many assertions there are. -/
  total : Nat := 0
  /-- How many of them failed. -/
  failed : Nat := 0
deriving DecidableEq, Repr

namespace Report

/-- The report without assertions. -/
def empty : Report := {}

/-- Adds an assertion. -/
def push (r : Report) (a : Assertion) : Report :=
  { results := r.results ++ [a], total := r.total + 1,
    failed := if a.passed then r.failed else r.failed + 1 }

/-- Adds several assertions. -/
def pushAll (r : Report) (as : List Assertion) : Report :=
  as.foldl push r

/-- How many assertions passed. -/
def passed (r : Report) : Nat :=
  r.total - r.failed

/-- Whether no assertion failed. -/
def allPassed (r : Report) : Bool :=
  r.failed == 0

/-- The assertions that failed. -/
def failures (r : Report) : List Assertion :=
  r.results.filter fun a => !a.passed

/-- Evaluates one test on a response. -/
def check (response : Response) (r : Report) (leaf : Source × Value) : Report :=
  r.pushAll (Assertion.evaluate leaf.1 leaf.2 (leaf.1.extract response))

@[simp] theorem results_push (r : Report) (a : Assertion) :
    (r.push a).results = r.results ++ [a] := rfl

@[simp] theorem results_pushAll (r : Report) (as : List Assertion) :
    (r.pushAll as).results = r.results ++ as := by
  induction as generalizing r with
  | nil => exact (List.append_nil _).symm
  | cons a rest ih =>
    rw [pushAll, List.foldl_cons, ← pushAll, ih, results_push, List.append_assoc,
      List.singleton_append]

/-- The assertions of tests are evaluated one test after the other. -/
theorem results_checkAll (response : Response) (r : Report) (leaves : List (Source × Value)) :
    (leaves.foldl (check response) r).results = r.results ++ leaves.flatMap fun leaf =>
      Assertion.evaluate leaf.1 leaf.2 (leaf.1.extract response) := by
  induction leaves generalizing r with
  | nil => exact (List.append_nil _).symm
  | cons leaf rest ih =>
    rw [List.foldl_cons, ih, check, results_pushAll, List.flatMap_cons, List.append_assoc]

end Report

/-- Evaluates the tests on a response.  When it stops on a failure, a failed test of the status
keeps the others from being evaluated. -/
def TestSection.run (t : TestSection) (stopOnFailure : Bool) (response : Response) : Report :=
  let first := ((t.status.map fun v => (Source.status, v)).toList).foldl (Report.check response)
    Report.empty
  if stopOnFailure && !first.allPassed then first
  else t.afterStatus.foldl (Report.check response) first

/-- Every test is evaluated if a failure does not stop it. -/
theorem TestSection.results_run (t : TestSection) (response : Response) :
    (t.run false response).results = t.leaves.flatMap fun leaf =>
      Assertion.evaluate leaf.1 leaf.2 (leaf.1.extract response) := by
  simp only [run, Bool.false_and, Bool.false_eq_true, if_false]
  rw [Report.results_checkAll, Report.results_checkAll, leaves, List.flatMap_append]
  rfl

end RequestSuite
