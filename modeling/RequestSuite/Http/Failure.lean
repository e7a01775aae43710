/-!
# Failures

Why a request got no response.
-/

namespace RequestSuite

/-- The kinds of failures. -/
inductive FailureKind where
  /-- The run was aborted. -/
  | cancelled
  | timeout
  | connect
  | tls
  /-- The request itself cannot be sent. -/
  | invalidRequest
  | other
deriving DecidableEq, Repr

/-- What a kind of failure is called. -/
def FailureKind.label : FailureKind → String
  | .cancelled => "Cancelled by user"
  | .timeout => "Request timed out"
  | .connect => "Connection failed"
  | .tls => "TLS error"
  | .invalidRequest => "Invalid request"
  | .other => "Transport error"

/-- Why a request got no response. -/
structure Failure where
  kind : FailureKind
  message : String
deriving DecidableEq, Repr

namespace Failure

/-- The failure of a request that was aborted. -/
def cancelled : Failure := ⟨.cancelled, "the request was aborted"⟩

/-- The text of a failure. -/
def text (f : Failure) : String :=
  f.kind.label ++ ": " ++ f.message

end Failure

end RequestSuite
