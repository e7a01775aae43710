import RequestSuite.Notice
import RequestSuite.Text.Blank
import RequestSuite.Unicode.Case

/-!
# Request methods

The methods that requests are sent with.  Their names are read without regard to letter case and to
blanks around them.
-/

namespace RequestSuite

/-- A request method. -/
inductive Method where
  | get
  | post
  | put
  | delete
  | patch
  | head
  | options
deriving DecidableEq, Repr

namespace Method

/-- The name of a method. -/
def name : Method → String
  | get => "GET"
  | post => "POST"
  | put => "PUT"
  | delete => "DELETE"
  | patch => "PATCH"
  | head => "HEAD"
  | options => "OPTIONS"

/-- All methods. -/
def all : List Method := [get, post, put, delete, patch, head, options]

/-- The method that a text names. -/
def ofText? (text : String) : Option Method :=
  let upper := Unicode.upper (Text.trim text)
  all.find? fun m => m.name == upper

/-- What a text that names no method is reported as. -/
def invalidMessage (text : String) : String :=
  "Invalid HTTP method: " ++ text

/-- The method that a text names, or GET with a notice if it names none. -/
def ofTextOrGet (text : String) : Method × List Notice :=
  match ofText? text with
  | some m => (m, [])
  | none => (get, [.unknownMethod text])

end Method

end RequestSuite
