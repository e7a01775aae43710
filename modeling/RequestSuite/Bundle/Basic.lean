import RequestSuite.Assertion.Report
import RequestSuite.Capture.Basic
import RequestSuite.Variable.Environment

/-!
# Bundles

A bundle names requests, in the order in which they are sent, with what is common to all of them
and the variables of several environments.  What a request says and what is said in common have the
same shape, a `Layer`; only the address is split between them.
-/

namespace RequestSuite

/-- A query parameter. -/
structure Param where
  name : String
  value : Value
  /-- Whether name and value are percent-encoded. -/
  encode : Bool := true
deriving DecidableEq, Repr

/-- The options of a request, as far as an `α` tells them. -/
structure Options (α : Type) where
  /-- Whether redirects are followed. -/
  follow : α
  /-- Whether certificates are verified. -/
  verifySSL : α
  /-- Whether the headers of the response are shown. -/
  showHeaders : α
  /-- Whether a JSON body is shown as it is. -/
  keepRawJSON : α
  /-- Whether no parameter is percent-encoded. -/
  rawParams : α
  /-- Whether a failed test of the status keeps the other tests from being evaluated. -/
  stopOnFailure : α
deriving DecidableEq, Repr

namespace Options

variable {α β γ : Type}

/-- Applies a function to each option. -/
def map (f : α → β) (o : Options α) : Options β :=
  ⟨f o.follow, f o.verifySSL, f o.showHeaders, f o.keepRawJSON, f o.rawParams, f o.stopOnFailure⟩

/-- Combines two sets of options. -/
def zipWith (f : α → β → γ) (o : Options α) (p : Options β) : Options γ :=
  ⟨f o.follow p.follow, f o.verifySSL p.verifySSL, f o.showHeaders p.showHeaders,
   f o.keepRawJSON p.keepRawJSON, f o.rawParams p.rawParams, f o.stopOnFailure p.stopOnFailure⟩

/-- No option is set. -/
def unset : Options (Option Bool) :=
  ⟨none, none, none, none, none, none⟩

/-- The options that are in force if none is set. -/
def standard : Options Bool :=
  ⟨false, true, false, false, false, false⟩

/-- The options with their names. -/
def toList (o : Options α) : List (String × α) :=
  [("follow", o.follow), ("verifySSL", o.verifySSL), ("showHeaders", o.showHeaders),
   ("keepRawJSON", o.keepRawJSON), ("rawParams", o.rawParams),
   ("stopOnFailure", o.stopOnFailure)]

/-- Sets the option of a name; nothing if no option has it. -/
def set? (name : String) (value : α) (o : Options α) : Option (Options α) :=
  match name with
  | "follow" => some { o with follow := value }
  | "verifySSL" => some { o with verifySSL := value }
  | "showHeaders" => some { o with showHeaders := value }
  | "keepRawJSON" => some { o with keepRawJSON := value }
  | "rawParams" => some { o with rawParams := value }
  | "stopOnFailure" => some { o with stopOnFailure := value }
  | _ => none

end Options

/-- What a bundle says about a request, or about all requests in common. -/
structure Layer where
  method : Option String := none
  /-- Names of headers with their values. -/
  headers : List (String × Value) := []
  params : List Param := []
  body : Option Value := none
  options : Options (Option Bool) := .unset
  tests : TestSection := {}
  captures : CaptureSection := {}
deriving DecidableEq, Repr

/-- What is said about all requests in common. -/
structure CommonLayer extends Layer where
  /-- The start of the addresses that begin with a slash. -/
  baseUrl : Option String := none
deriving DecidableEq, Repr

/-- What is said about one request. -/
structure RequestLayer extends Layer where
  name : String
  url : Option String := none
deriving DecidableEq, Repr

/-- A bundle of requests. -/
structure Bundle where
  common : Option CommonLayer := none
  /-- The requests in the order in which they are sent. -/
  requests : List RequestLayer := []
  /-- The environments, by name. -/
  environments : EnvironmentSet := .empty
deriving DecidableEq, Repr

namespace Bundle

/-- The request of a name. -/
def request? (b : Bundle) (name : String) : Option RequestLayer :=
  b.requests.find? fun r => r.name == name

end Bundle

end RequestSuite
