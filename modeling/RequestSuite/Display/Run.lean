import RequestSuite.Display.Response
import RequestSuite.Run.Session

/-!
# Runs as they are shown

A run is shown by a title, the results of its requests one after the other, and a summary.
-/

namespace RequestSuite

/-- How runs are shown. -/
structure RunView where
  /-- Whether all responses are shown, and in full. -/
  verbose : Bool := false
  /-- Whether styles are shown. -/
  styled : Bool := false
deriving DecidableEq, Repr

namespace RunView

/-- A text in a color. -/
def colored (v : RunView) (c : Color) (text : String) : String :=
  (Style.colored c).paint v.styled text

/-- A text in bold. -/
def bold (v : RunView) (text : String) : String :=
  Style.bold.paint v.styled text

/-- A text that stands back. -/
def dimmed (v : RunView) (text : String) : String :=
  Style.dimmed.paint v.styled text

/-- Lines, each with its end. -/
def block (lines : List String) : String :=
  "".intercalate (lines.map (· ++ "\n"))

/-! ## Results -/

/-- How the response of a result is shown. -/
def responseView (v : RunView) (r : Result) : ResponseView :=
  { verbose := v.verbose
    styled := v.styled
    showHeaders := v.verbose || r.options.showHeaders
    keepRawJSON := r.options.keepRawJSON }

/-- The number and the name of a result. -/
def label (r : Result) : String :=
  "[" ++ toString r.number ++ "] " ++ r.name

/-- A mark for success or the lack of it. -/
def mark (v : RunView) (success : Bool) : String :=
  if success then v.colored .green "✓" else v.colored .red "✗"

/-- The warning about names without variables. -/
def undefinedLines (v : RunView) (r : Result) : List String :=
  if r.undefined.isEmpty then []
  else ["   " ++ v.colored .yellow "Warning" ++ ": undefined variables: " ++
    ", ".intercalate r.undefined]

/-- The lines of the response, which is shown if something went wrong or everything is shown. -/
def responseLines (v : RunView) (r : Result) : List String :=
  match r.response? with
  | none => []
  | some response =>
    if v.verbose || !r.isSuccess then
      (Text.lines ((v.responseView r).text response)).map (fun line => "   " ++ line) ++ [""]
    else []

/-- The lines of an evaluated test. -/
def assertionLines (v : RunView) (a : Assertion) : List String :=
  ("     " ++ v.mark a.passed ++ " " ++ a.describe) ::
    match a.message with
    | none => []
    | some message =>
      ("       " ++ v.colored .red message) ::
        if v.verbose then ["       received: " ++ v.dimmed (Value.textOf a.received)] else []

/-- The lines of the evaluated tests. -/
def reportLines (v : RunView) (r : Result) : List String :=
  match r.report? with
  | none => []
  | some report =>
    if report.total = 0 then []
    else "   Assertions:" :: report.results.flatMap v.assertionLines ++ [""]

/-- The lines of the captures that failed. -/
def captureLines (v : RunView) (r : Result) : List String :=
  r.captureErrors.map fun e => "   " ++ v.colored .yellow "Capture" ++ ": " ++ e.message

/-- The lines of a request that was answered or failed. -/
def sentLines (v : RunView) (r : Result) : List String :=
  (" " ++ v.mark r.isSuccess ++ " " ++ label r ++ " " ++ v.colored .cyan r.method ++ " " ++ r.url ++
      " (" ++ toString r.duration ++ "ms)") ::
    v.undefinedLines r ++ v.responseLines r ++ v.reportLines r ++ v.captureLines r

/-- The lines of a result. -/
def resultLines (v : RunView) (r : Result) : List String :=
  match r.outcome with
  | .notRun => [" " ++ v.dimmed "⊘" ++ " " ++ label r ++ " " ++ v.dimmed "(not run)"]
  | .invalid e =>
    [" " ++ v.mark false ++ " " ++ label r,
      "   " ++ (Style.colored .red).inBold.paint v.styled "Invalid" ++ ": " ++ e.message, ""]
  | .cancelled =>
    [" " ++ v.colored .yellow "⊘" ++ " " ++ label r ++ " " ++ v.colored .cyan r.method ++ " " ++
      r.url ++ " " ++ v.colored .yellow "(cancelled)"]
  | .completed .. | .failed _ => v.sentLines r

/-- A result as it is shown. -/
def resultText (v : RunView) (r : Result) : String :=
  block (v.resultLines r)

/-! ## Titles and summaries -/

/-- The title of a run of so many requests from a source. -/
def titleText (v : RunView) (source : String) (total : Nat) : String :=
  block ["", "Running " ++ toString total ++ " requests from " ++ v.bold source ++ "...", ""]

/-- The line above and below the title of a summary. -/
def rule : String :=
  String.ofList (List.replicate 50 '━')

/-- A number that is told in color, if there is anything to tell. -/
def countPart (paint : String → String) (count : Nat) (what : String) : List String :=
  if count = 0 then [] else [paint (toString count) ++ " " ++ what]

/-- The line on the requests. -/
def requestsLine (v : RunView) (s : Summary) : String :=
  let parts := (v.colored .green (toString s.completed) ++ " completed") ::
    countPart (v.colored .red) s.failed "failed" ++
    countPart (v.colored .red) s.invalid "invalid" ++
    countPart (v.colored .yellow) s.cancelled "cancelled" ++
    countPart v.dimmed s.notRun "not run"
  "  " ++ v.bold "Requests" ++ ": " ++ ", ".intercalate parts ++ ", " ++ toString s.total ++ " total"

/-- The line on the evaluated tests, if there are any. -/
def assertionsLine (v : RunView) (s : Summary) : List String :=
  if s.assertions = 0 then []
  else
    let parts := (v.colored .green (toString s.passedAssertions) ++ " passed") ::
      countPart (v.colored .red) s.failedAssertions "failed"
    ["  " ++ v.bold "Assertions" ++ ": " ++ ", ".intercalate parts ++ ", " ++
      toString s.assertions ++ " total"]

/-- The line on the captures that failed, if there are any. -/
def capturesLine (v : RunView) (s : Summary) : List String :=
  if s.captureErrors = 0 then []
  else ["  " ++ v.bold "Captures" ++ ": " ++ v.colored .yellow (toString s.captureErrors) ++ " failed"]

/-- Milliseconds as seconds with three decimal places. -/
def secondsText (milliseconds : Nat) : String :=
  let places := Nat.toDigits 10 (milliseconds % 1000)
  toString (milliseconds / 1000) ++ "." ++
    String.ofList (List.replicate (3 - places.length) '0' ++ places)

/-- A summary as it is shown. -/
def summaryText (v : RunView) (s : Summary) : String :=
  block (["", rule, v.bold "Summary", rule, v.requestsLine s] ++ v.assertionsLine s ++
    v.capturesLine s ++ ["  " ++ v.bold "Duration" ++ ": " ++ secondsText s.duration ++ "s", ""])

end RunView

end RequestSuite
