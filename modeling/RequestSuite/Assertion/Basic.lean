import RequestSuite.Assertion.Operator
import RequestSuite.Capture.Source
import RequestSuite.Value.Text

/-!
# Assertions

An assertion is the outcome of comparing what a response holds at one place with what a test
expects there.  There are assertions that passed, assertions that failed, with a message that says
why, and assertions that could not be evaluated, which count as failed.
-/

namespace RequestSuite

/-- Why a test cannot be evaluated. -/
inductive TestFault where
  | unknownOperator (key : String)
  /-- The two values have no order, being of these kinds. -/
  | incomparable (expected received : String)
  | invalidSize (text : String)
  /-- A value of this kind has no size. -/
  | unsized (kind : String)
  | invalidPresence (text : String)
  | invalidKind (text : String)
  | missingPattern
  | unknownFlag (flag : Char)
  | invalidPattern (text : String)
  | missingValue
  /-- The body is not a document. -/
  | invalidBody (text : String)
  | invalidPath (text : String)
deriving DecidableEq, Repr

/-- What a fault is reported as. -/
def TestFault.message : TestFault → String
  | .unknownOperator key => "invalid operator '" ++ key ++ "'"
  | .incomparable expected received =>
    "type mismatch: cannot compare " ++ received ++ " with " ++ expected
  | .invalidSize text => "$size expects an integer, got " ++ text
  | .unsized kind => "cannot take the size of " ++ kind
  | .invalidPresence text => "$exists expects a boolean, got " ++ text
  | .invalidKind text => "$type expects a type name string, got " ++ text
  | .missingPattern => "missing $regex pattern"
  | .unknownFlag flag => "invalid regex: unsupported option '" ++ String.singleton flag ++ "'"
  | .invalidPattern text => "invalid regex: " ++ text
  | .missingValue => "value is missing"
  | .invalidBody text => "response body is not valid JSON: " ++ text
  | .invalidPath text => "invalid JSON path: " ++ text

/-- An evaluated comparison. -/
structure Assertion where
  /-- The place in the response. -/
  source : Source
  /-- The operator as the test writes it. -/
  operator : String
  expected : Value
  /-- The value found at the place, if there is one. -/
  received : Option Value
  /-- Whether the comparison came out true. -/
  passed : Bool
  /-- Why it did not, in words. -/
  message : Option String
deriving DecidableEq, Repr

namespace Assertion

/-- An assertion that passed. -/
def success (source : Source) (operator : String) (expected : Value) (received : Option Value) :
    Assertion :=
  ⟨source, operator, expected, received, true, none⟩

/-- An assertion that failed. -/
def failure (source : Source) (operator : String) (expected : Value) (received : Option Value)
    (message : String) : Assertion :=
  ⟨source, operator, expected, received, false, some message⟩

/-- An assertion that could not be evaluated. -/
def error (source : Source) (operator : String) (expected : Value) (received : Option Value)
    (fault : TestFault) : Assertion :=
  failure source operator expected received fault.message

/-- The comparison in one line. -/
def describe (a : Assertion) : String :=
  a.source.label ++ " " ++ a.operator ++ " " ++ a.expected.text

end Assertion

end RequestSuite
