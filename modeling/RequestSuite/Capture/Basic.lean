import RequestSuite.Capture.Source
import RequestSuite.Notice
import RequestSuite.Variable.Store

/-!
# Captures

A capture takes a value from a response into a variable.  Captures are applied one after the other;
one that fails changes nothing and keeps no other from being applied.
-/

namespace RequestSuite

/-- A value to be taken from a response into a variable. -/
structure Capture where
  /-- The variable that takes the value. -/
  target : String
  source : Source
deriving DecidableEq, Repr

/-- Why a value could not be captured. -/
inductive CaptureFault where
  | noStatus
  | noHeader (name : String)
  | invalidJson (fault : Json.Fault)
  | invalidPath (error : PathError)
  | noMatch
deriving DecidableEq, Repr

/-- What a fault is reported as. -/
def CaptureFault.message : CaptureFault → String
  | .noStatus => "response has no status"
  | .noHeader name => "header '" ++ name ++ "' not found"
  | .invalidJson fault => "body is not valid JSON: " ++ fault.message
  | .invalidPath error => error.message
  | .noMatch => "JSON path matched nothing"

/-- A capture that failed. -/
structure CaptureError where
  capture : Capture
  fault : CaptureFault
deriving DecidableEq, Repr

/-- What a failed capture is reported as. -/
def CaptureError.message (e : CaptureError) : String :=
  "capture of '" ++ e.capture.target ++ "' from " ++ e.capture.source.descriptor ++
    " failed: " ++ e.fault.message

namespace Capture

/-- The capture of a header into a variable. -/
def ofHeader (name target : String) : Capture :=
  ⟨target, .header (Text.lower name)⟩

/-- The capture of what a path finds into a variable. -/
def ofPath (path target : String) : Capture :=
  ⟨target, .json path⟩

/-- The value at the capture's place in a response. -/
def extract (c : Capture) (r : Response) : Except CaptureFault Value :=
  match c.source with
  | .status =>
    match r.status? with
    | some s => .ok (.number (.int s.code))
    | none => .error .noStatus
  | .body => .ok (.string r.body)
  | .header name =>
    match r.header? name with
    | some v => .ok (.string v)
    | none => .error (.noHeader name)
  | .json path =>
    match r.json with
    | .error fault => .error (.invalidJson fault)
    | .ok document =>
      match Path.query document path with
      | .error e => .error (.invalidPath e)
      | .ok none => .error .noMatch
      | .ok (some v) => .ok v

/-- Applies captures one after the other; the errors of those that fail come in the same order. -/
def applyAll (r : Response) : List Capture → Store → Store × List CaptureError
  | [], store => (store, [])
  | c :: rest, store =>
    match c.extract r with
    | .ok v => applyAll r rest (store.capture c.target v)
    | .error fault =>
      let (store, errors) := applyAll r rest store
      (store, ⟨c, fault⟩ :: errors)

end Capture

/-- What a bundle says about the captures of a request. -/
structure CaptureSection where
  /-- The variable for the status. -/
  status : Option String := none
  /-- The variable for the body. -/
  body : Option String := none
  /-- Names of headers with their variables. -/
  headers : List (String × String) := []
  /-- Paths with their variables. -/
  json : List (String × String) := []
  /-- Captures in the short notation. -/
  setvars : List Capture := []
deriving DecidableEq, Repr

namespace CaptureSection

/-- Whether nothing is captured. -/
def isEmpty (s : CaptureSection) : Bool :=
  s.status.isNone && s.body.isNone && s.headers.isEmpty && s.json.isEmpty && s.setvars.isEmpty

/-- All captures in the order in which they are applied. -/
def rules (s : CaptureSection) : List Capture :=
  (s.status.map fun v => Capture.mk v .status).toList ++
    (s.body.map fun v => Capture.mk v .body).toList ++
    s.headers.map (fun h => Capture.ofHeader h.1 h.2) ++
    s.json.map (fun p => Capture.ofPath p.1 p.2) ++ s.setvars

/-- Applies all captures. -/
def run (s : CaptureSection) (r : Response) (store : Store) : Store × List CaptureError :=
  Capture.applyAll r s.rules store

end CaptureSection

/-- The notices about captures that failed. -/
def captureNotices (errors : List CaptureError) : List Notice :=
  errors.map fun e => .captureFailed e.message

end RequestSuite
