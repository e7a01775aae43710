import RequestSuite.Display.Style
import RequestSuite.Http.Response
import RequestSuite.Text.Lines
import RequestSuite.Value.Text

/-!
# Responses as they are shown

A response is shown by its status and its time, and below them the headers and the body as far as
they are asked for.  A JSON body is set out over several lines.  In the short form a long body is
told by its size only.
-/

namespace RequestSuite

/-- How responses are shown. -/
structure ResponseView where
  /-- Whether the long form is used, with titles over the headers and the body. -/
  verbose : Bool
  /-- Whether styles are shown. -/
  styled : Bool
  showHeaders : Bool := verbose
  /-- Whether a JSON body is left as it is. -/
  keepRawJSON : Bool := false
deriving DecidableEq, Repr

namespace ResponseView

/-- The style of a status. -/
def statusStyle (v : ResponseView) (s : Status) : Style :=
  let style := Style.colored (if s.isSuccess then .green else if s.isClientError then .yellow
    else .red)
  if v.verbose then style.inBold else style

/-- The line of the status, or of the failure. -/
def statusLine (v : ResponseView) (r : Response) : String :=
  match r.status? with
  | none => (Style.colored .red).inBold.paint v.styled ("Error: " ++ r.body)
  | some s => (v.statusStyle s).paint v.styled ("HTTP " ++ s.text)

/-- The line of the time. -/
def timeLine (v : ResponseView) (r : Response) : String :=
  (Style.colored .cyan).paint v.styled ("Time: " ++ toString r.duration ++ "ms")

/-- An empty line and a title. -/
def titleLines (v : ResponseView) (title : String) : List String :=
  ["", (Style.colored .blue).inBold.paint v.styled title]

/-- The lines of the headers, under a title. -/
def headerLines (v : ResponseView) (r : Response) : List String :=
  if v.showHeaders && !r.headerBlock.isEmpty then
    v.titleLines "Headers:" ++
      (Text.lines r.headerBlock).map fun line =>
        (Style.colored .blue).paint v.styled ("   " ++ line)
  else []

/-- A body as it is shown: set out over several lines if it is JSON. -/
def bodyText (v : ResponseView) (r : Response) : String :=
  if v.keepRawJSON then r.body
  else
    match r.json with
    | .ok document => document.indented
    | .error _ => r.body

/-- How many bytes a body has to take to be told by its size in the short form. -/
def sizeLimit : Nat := 200

/-- The lines of the body. -/
def bodyLines (v : ResponseView) (r : Response) : List String :=
  if r.body.isEmpty then []
  else
    let body := v.bodyText r
    if v.verbose then v.titleLines "Body:" ++ [body]
    else if sizeLimit ≤ body.utf8ByteSize then
      ["Body: " ++ toString r.body.utf8ByteSize ++ " bytes"]
    else [body]

/-- A response as it is shown. -/
def text (v : ResponseView) (r : Response) : String :=
  "\n".intercalate (v.statusLine r :: v.timeLine r ::
    if r.isFailed then [] else v.headerLines r ++ v.bodyLines r)

end ResponseView

end RequestSuite
