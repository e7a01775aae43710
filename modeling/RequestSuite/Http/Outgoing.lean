import RequestSuite.Http.Failure
import RequestSuite.Http.Method
import RequestSuite.Request.Basic
import RequestSuite.Url.Basic

/-!
# Outgoing requests

What is handed to the transport: the method, the URL, the headers and the body of a request, all
checked.  A body that is a list or a map goes out as JSON, and says so if no header tells its kind.
Whether the address is a URL is left to a reader of URLs.
-/

namespace RequestSuite

/-- A request as it is sent. -/
structure Outgoing where
  method : Method
  url : Url
  /-- The headers, with distinct names in lower case. -/
  headers : Table String
  body : Option String
  /-- Whether redirects are followed. -/
  follow : Bool
  /-- Whether certificates are verified. -/
  verifySSL : Bool
deriving DecidableEq, Repr

namespace Outgoing

/-- The characters of header names. -/
def isTokenChar (c : Char) : Bool :=
  c.isAlphanum || "!#$%&'*+-.^_\x60|~".toList.contains c

/-- The largest number of characters of a header name. -/
def nameLimit : Nat := 65535

/-- Whether a text is a header name. -/
def isHeaderName (s : String) : Bool :=
  !s.isEmpty && s.toList.all isTokenChar && s.length ≤ nameLimit

/-- Whether a text may be the value of a header. -/
def isHeaderValue (s : String) : Bool :=
  s.toList.all fun c => c == '\t' || (32 ≤ c.toNat && c.toNat != 127)

/-- The header that tells the kind of the body. -/
def contentType : String := "content-type"

/-- The kind of a JSON body. -/
def jsonType : String := "application/json"

/-- The failure of a request that cannot be sent. -/
def refused (message : String) : Failure :=
  ⟨.invalidRequest, message⟩

/-- Adds a header after checking it. -/
def addHeader (headers : Table String) (header : String × Value) :
    Except Failure (Table String) :=
  let (name, value) := header
  if !isHeaderName name then .error (refused ("invalid header name '" ++ name ++ "'"))
  else if !isHeaderValue value.text then
    .error (refused ("invalid value for header '" ++ name ++ "'"))
  else .ok (headers.insert (Text.lower name) value.text)

/-- The text that is sent for a body; nothing for null. -/
def bodyText : Option Value → Option String
  | none | some .null => none
  | some v => some v.text

/-- The headers with that of the body's kind added where it is missing. -/
def withContentType (auto : Bool) (body : Option Value) (headers : Table String) :
    Table String :=
  if auto && body.any Value.isStructured && !headers.has contentType then
    headers.insert contentType jsonType
  else headers

/-- The request to send, its address being read by `readUrl`; `auto` tells whether the kind of a
JSON body is added to the headers. -/
def ofRequest (readUrl : UrlReader) (auto : Bool) (r : Request) : Except Failure Outgoing := do
  let url ← match readUrl (Text.trim r.fullUrl) with
    | .ok url => pure url
    | .error fault =>
      throw (refused ("invalid URL '" ++ r.fullUrl ++ "': " ++ fault.message))
  let headers ← r.headers.foldlM addHeader []
  return {
    method := (Method.ofTextOrGet r.method).1
    url := url
    headers := withContentType auto r.body headers
    body := bodyText r.body
    follow := r.options.follow
    verifySSL := r.options.verifySSL }

/-- The notices about a request on its way out. -/
def notices (r : Request) : List Notice :=
  (Method.ofTextOrGet r.method).2

/-! ## Refusals -/

theorem kind_of_addHeader {headers : Table String} {header : String × Value} {f : Failure}
    (h : addHeader headers header = .error f) : f.kind = .invalidRequest := by
  simp only [addHeader] at h
  split at h
  · cases h
    rfl
  · split at h
    · cases h
      rfl
    · cases h

theorem kind_of_foldlM_addHeader {headers : Table String} {lines : List (String × Value)}
    {f : Failure} (h : lines.foldlM addHeader headers = .error f) : f.kind = .invalidRequest := by
  induction lines generalizing headers with
  | nil => cases h
  | cons line rest ih =>
    rw [List.foldlM_cons] at h
    rcases hline : addHeader headers line with e | t
    · rw [hline] at h
      cases h
      exact kind_of_addHeader hline
    · rw [hline] at h
      exact ih h

/-- A request is refused as invalid and for no other reason. -/
theorem kind_of_ofRequest {readUrl : UrlReader} {auto : Bool} {r : Request} {f : Failure}
    (h : ofRequest readUrl auto r = .error f) : f.kind = .invalidRequest := by
  simp only [ofRequest] at h
  rcases hurl : readUrl (Text.trim r.fullUrl) with fault | url
  · rw [hurl] at h
    cases h
    rfl
  · rw [hurl] at h
    rcases hheaders : r.headers.foldlM addHeader [] with e | headers
    · rw [hheaders] at h
      cases h
      exact kind_of_foldlM_addHeader hheaders
    · rw [hheaders] at h
      cases h

end Outgoing

end RequestSuite
