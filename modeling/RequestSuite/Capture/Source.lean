import RequestSuite.Http.Response
import RequestSuite.Path.Parser
import RequestSuite.Text.Blank

/-!
# Places in a response

The places from which values are captured and at which tests look: the status, the body, a header,
or what a path finds in the body.  `Source.ofDescriptor` and `Source.descriptor` are the short
notation of them.
-/

namespace RequestSuite

/-- A place in a response. -/
inductive Source where
  | status
  | body
  /-- A header, by its name in lower case. -/
  | header (name : String)
  /-- What a path finds in the body. -/
  | json (path : String)
deriving DecidableEq, Repr

/-- Why a text describes no place. -/
inductive DescriptorError where
  | emptyHeaderName
  | unknown (text : String)
deriving DecidableEq, Repr

/-- What a refused descriptor is reported as. -/
def DescriptorError.message : DescriptorError → String
  | .emptyHeaderName => "header name is empty"
  | .unknown text =>
    "unknown capture descriptor '" ++ text ++
      "', expected status, body, $h.<header> or a JSON path"

namespace Source

/-- Whether a text is the root of a path or goes on from it with a segment. -/
def isPathText (s : List Char) : Bool :=
  match s with
  | ['$'] => true
  | '$' :: '.' :: _ => true
  | '$' :: '[' :: _ => true
  | _ => false

/-- The place that a text describes: `status`, `body`, `$h.` with a header name, or a path. -/
def ofDescriptor (text : String) : Except DescriptorError Source :=
  let text := Text.trim text
  if text = "status" then .ok .status
  else if text = "body" then .ok .body
  else
    match text.toList with
    | '$' :: 'h' :: '.' :: name =>
      if name.isEmpty then .error .emptyHeaderName
      else .ok (.header (Text.lower (String.ofList name)))
    | s => if isPathText s then .ok (.json text) else .error (.unknown text)

/-- The short notation of a place. -/
def descriptor : Source → String
  | status => "status"
  | body => "body"
  | header name => "$h." ++ name
  | json path => path

/-- What a place is called in the results of tests. -/
def label : Source → String
  | status => "status"
  | body => "body"
  | header name => "headers." ++ name
  | json path => "json " ++ path

end Source

end RequestSuite
