import RequestSuite.Http.Failure
import RequestSuite.Http.Status
import RequestSuite.Json.Reader
import RequestSuite.Text.Lower

/-!
# Responses

What came of sending a request: a reply with its status, headers and body, or a failure.  The
headers of a reply have lower-case names, each once, and lines with the same name are joined in
their order.  A failed request has the text of its failure for a body and no headers.
-/

namespace RequestSuite

/-- What a server answered. -/
structure Reply where
  status : Status
  /-- The protocol and its version. -/
  version : String
  /-- The headers, with distinct names in lower case. -/
  headers : Table String
  body : String
deriving DecidableEq, Repr

namespace Reply

/-- Adds a header line to merged headers: to the value under the same name, or at the end. -/
def addHeader (headers : Table String) (line : String × String) : Table String :=
  let name := Text.lower line.1
  match headers.get? name with
  | some value => headers.insert name (value ++ ", " ++ line.2)
  | none => headers ++ [(name, line.2)]

/-- The headers that a list of header lines describes. -/
def mergeHeaders (lines : List (String × String)) : Table String :=
  lines.foldl addHeader []

/-- The reply of a status, header lines and a body. -/
def ofLines (status : Status) (version : String) (lines : List (String × String))
    (body : String) : Reply :=
  ⟨status, version, mergeHeaders lines, body⟩

/-- The status line and the header lines, joined by line breaks. -/
def headerBlock (r : Reply) : String :=
  r.headers.foldl (fun out h => out ++ "\n" ++ h.1 ++ ": " ++ h.2)
    (r.version ++ " " ++ r.status.text)

end Reply

/-- What came of sending a request, and how many milliseconds it took. -/
structure Response where
  /-- The reply, or the failure. -/
  outcome : Except Failure Reply
  /-- The time in milliseconds. -/
  duration : Nat

namespace Response

/-- The response of a request that failed. -/
def failed (f : Failure) (duration : Nat) : Response :=
  ⟨.error f, duration⟩

/-- The response of a request that was answered. -/
def answered (r : Reply) (duration : Nat) : Response :=
  ⟨.ok r, duration⟩

/-- The failure, if there was one. -/
def failure? (r : Response) : Option Failure :=
  match r.outcome with
  | .error f => some f
  | .ok _ => none

/-- The status, if the request was answered. -/
def status? (r : Response) : Option Status :=
  match r.outcome with
  | .error _ => none
  | .ok reply => some reply.status

/-- The headers; none if the request failed. -/
def headers (r : Response) : Table String :=
  match r.outcome with
  | .error _ => []
  | .ok reply => reply.headers

/-- The body; the text of the failure if the request failed. -/
def body (r : Response) : String :=
  match r.outcome with
  | .error f => f.text
  | .ok reply => reply.body

/-- The status line and the header lines; empty if the request failed. -/
def headerBlock (r : Response) : String :=
  match r.outcome with
  | .error _ => ""
  | .ok reply => reply.headerBlock

/-- Whether the request failed. -/
def isFailed (r : Response) : Bool :=
  r.failure?.isSome

/-- Whether the request was aborted. -/
def isCancelled (r : Response) : Bool :=
  r.failure?.any fun f => f.kind == .cancelled

/-- Whether the request was answered with success. -/
def isSuccess (r : Response) : Bool :=
  r.status?.any Status.isSuccess

/-- The value of a header, whatever the case of its name. -/
def header? (r : Response) (name : String) : Option String :=
  (r.headers.find? fun h => Text.sameIgnoringCase h.1 name).map (·.2)

/-- The value that the body holds as a JSON document. -/
def json (r : Response) : Except Json.Fault Value :=
  Json.read r.body

end Response

end RequestSuite
