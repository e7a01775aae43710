import RequestSuite.Assertion.Report
import RequestSuite.Capture.Basic
import RequestSuite.Request.Merge

/-!
# Results

What came of the requests of a run, each with its number in the bundle, and how often what came.
-/

namespace RequestSuite

/-- What came of a request. -/
inductive Outcome where
  /-- A reply came, its tests were evaluated and its captures applied. -/
  | completed (response : Response) (report : Report) (captureErrors : List CaptureError)
  /-- No reply came. -/
  | failed (response : Response)
  /-- The request lacks something and was not sent. -/
  | invalid (error : MissingField)
  /-- The run was aborted in the course of this request. -/
  | cancelled
  /-- The request was not begun. -/
  | notRun

/-- What came of a request, with what was tried. -/
structure Result where
  /-- The number of the request in the bundle, counted from one. -/
  number : Nat
  name : String
  /-- The method with its templates filled in; empty if the request was not begun. -/
  method : String := ""
  /-- The whole address with its templates filled in; empty if the request was not begun. -/
  url : String := ""
  /-- The names in the request for which there was no variable. -/
  undefined : List String := []
  options : Options Bool := .standard
  /-- The time in milliseconds. -/
  duration : Nat := 0
  outcome : Outcome

namespace Result

/-- The response of a request that was sent. -/
def response? (r : Result) : Option Response :=
  match r.outcome with
  | .completed response _ _ | .failed response => some response
  | _ => none

/-- The evaluated tests of a request that was answered. -/
def report? (r : Result) : Option Report :=
  match r.outcome with
  | .completed _ report _ => some report
  | _ => none

/-- The captures that failed. -/
def captureErrors (r : Result) : List CaptureError :=
  match r.outcome with
  | .completed _ _ errors => errors
  | _ => []

/-- Whether the request was answered and passed all tests. -/
def isSuccess (r : Result) : Bool :=
  r.report?.any Report.allPassed

/-- Whether the run was aborted in the course of the request. -/
def isCancelled (r : Result) : Bool :=
  match r.outcome with
  | .cancelled => true
  | _ => false

end Result

/-- How often what came of the requests of a run. -/
structure Summary where
  total : Nat := 0
  completed : Nat := 0
  failed : Nat := 0
  invalid : Nat := 0
  cancelled : Nat := 0
  notRun : Nat := 0
  /-- The time of all requests in milliseconds. -/
  duration : Nat := 0
  assertions : Nat := 0
  passedAssertions : Nat := 0
  failedAssertions : Nat := 0
  captureErrors : Nat := 0
deriving DecidableEq, Repr

namespace Summary

/-- Counts what came of a request. -/
def count (s : Summary) : Outcome → Summary
  | .completed _ report errors =>
    { s with
      completed := s.completed + 1
      assertions := s.assertions + report.total
      passedAssertions := s.passedAssertions + report.passed
      failedAssertions := s.failedAssertions + report.failed
      captureErrors := s.captureErrors + errors.length }
  | .failed _ => { s with failed := s.failed + 1 }
  | .invalid _ => { s with invalid := s.invalid + 1 }
  | .cancelled => { s with cancelled := s.cancelled + 1 }
  | .notRun => { s with notRun := s.notRun + 1 }

/-- Counts a result. -/
def add (s : Summary) (r : Result) : Summary :=
  { s with total := s.total + 1, duration := s.duration + r.duration }.count r.outcome

/-- The summary of results. -/
def ofResults (results : List Result) : Summary :=
  results.foldl add {}

/-- Whether nothing went wrong: aborted requests and failed captures do not count as such. -/
def isSuccess (s : Summary) : Bool :=
  s.failed == 0 && s.invalid == 0 && s.failedAssertions == 0

end Summary

end RequestSuite
