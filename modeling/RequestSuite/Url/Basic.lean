/-!
# URLs

A URL in its parts, and its text.  All parts are kept the way they are written in the text.  Which
texts are URLs is up to a reader of URLs.
-/

namespace RequestSuite

/-- Who is asked: a user, a host and a port. -/
structure Authority where
  username : String
  password : String
  host : String
  /-- The port, unless it is the usual one. -/
  port : Option Nat
deriving DecidableEq, Repr

/-- A URL in its parts. -/
structure Url where
  scheme : String
  authority : Option Authority
  path : String
  query : Option String
  fragment : Option String
deriving DecidableEq, Repr

namespace Authority

/-- The user, with the sign that separates it from the host. -/
def userText (a : Authority) : String :=
  if a.username = "" ∧ a.password = "" then ""
  else if a.password = "" then a.username ++ "@"
  else a.username ++ ":" ++ a.password ++ "@"

/-- The text of an authority. -/
def text (a : Authority) : String :=
  a.userText ++ a.host ++ (a.port.map fun p => ":" ++ toString p).getD ""

end Authority

namespace Url

/-- The text of the part from the scheme to the path.  A path that starts with two slashes is set
off from the scheme. -/
def start (u : Url) : String :=
  match u.authority with
  | some a => u.scheme ++ "://" ++ a.text ++ u.path
  | none =>
    if u.path.toList.take 2 = ['/', '/'] then u.scheme ++ ":/." ++ u.path
    else u.scheme ++ ":" ++ u.path

/-- The text of a URL. -/
def text (u : Url) : String :=
  u.start ++ (u.query.map fun q => "?" ++ q).getD "" ++ (u.fragment.map fun f => "#" ++ f).getD ""

/-- The URL without the user. -/
def withoutUser (u : Url) : Url :=
  { u with authority := u.authority.map fun a => { a with username := "", password := "" } }

end Url

/-! ## Readers -/

/-- Why a text is no URL. -/
inductive UrlFault where
  | noScheme
  | emptyHost
  | badPort
  | badDomain
  | badFourByteAddress
  | badEightGroupAddress
  /-- A character that cannot occur in a host. -/
  | badHostChar
  /-- More text than a URL can have. -/
  | tooLong
deriving DecidableEq, Repr

/-- What a fault is reported as. -/
def UrlFault.message : UrlFault → String
  | noScheme => "relative URL without a base"
  | emptyHost => "empty host"
  | badPort => "invalid port number"
  | badDomain => "invalid international domain name"
  | badFourByteAddress => "invalid IPv4 address"
  | badEightGroupAddress => "invalid IPv6 address"
  | badHostChar => "invalid domain character"
  | tooLong => "URLs more than 4 GB are not supported"

/-- A reader of URLs says which texts are URLs, and what the parts of each are. -/
abbrev UrlReader := String → Except UrlFault Url

end RequestSuite
