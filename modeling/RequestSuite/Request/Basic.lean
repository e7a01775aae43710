import RequestSuite.Bundle.Basic
import RequestSuite.Text.Percent

/-!
# Requests

A request with everything that a bundle says about it gathered in one place, and its address: the
address of the bundle, completed by the common start and by the parameters as a query.
-/

namespace RequestSuite

/-- A request of a bundle. -/
structure Request where
  name : String
  method : String
  /-- The start of addresses that begin with a slash. -/
  baseUrl : Option String
  url : String
  /-- The headers, with distinct names in lower case. -/
  headers : Table Value
  params : List Param
  body : Option Value
  options : Options Bool
  tests : TestSection
  captures : CaptureSection
deriving DecidableEq, Repr

namespace Request

/-- A parameter as a part of a query. -/
def paramText (raw : Bool) (p : Param) : String :=
  if p.encode && !raw then
    Text.encodeComponent p.name ++ "=" ++ Text.encodeComponent p.value.text
  else p.name ++ "=" ++ p.value.text

/-- The parameters as a query, without the question mark. -/
def query (r : Request) : String :=
  "&".intercalate (r.params.map (paramText r.options.rawParams))

/-- A text without the slashes at its end. -/
def withoutSlashes (s : String) : String :=
  String.ofList (s.toList.reverse.dropWhile (· == '/')).reverse

/-- The address without the parameters. -/
def address (r : Request) : String :=
  match r.baseUrl with
  | some base => if r.url.toList.head? = some '/' then withoutSlashes base ++ r.url else r.url
  | none => r.url

/-- The whole address. -/
def fullUrl (r : Request) : String :=
  let query := r.query
  if query = "" then r.address
  else if r.address.toList.contains '?' then r.address ++ "&" ++ query
  else r.address ++ "?" ++ query

/-- The value of a header, whatever the case of its name. -/
def header? (r : Request) (name : String) : Option Value :=
  (r.headers.find? fun h => Text.sameIgnoringCase h.1 name).map (·.2)

end Request

end RequestSuite
