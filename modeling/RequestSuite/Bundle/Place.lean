import RequestSuite.Capture.Source
import RequestSuite.Notice

/-!
# Places in a bundle and what is wrong there

A bundle is read from a value, and everything that is refused is refused at a place: a list of
steps down from the topmost map.  `Reading` is the monad of reading a bundle, which collects
notices on the way and stops at the first thing that is refused.
-/

namespace RequestSuite

/-- A step down into a value. -/
inductive PlaceStep where
  | key (name : String)
  | index (position : Nat)
deriving DecidableEq, Repr

/-- A place in a bundle, as steps from the top. -/
abbrev Place := List PlaceStep

namespace Place

/-- How the steps after the first are written. -/
def textAfter : Place → String
  | [] => ""
  | .key name :: rest => "." ++ name ++ textAfter rest
  | .index i :: rest => "[" ++ toString i ++ "]" ++ textAfter rest

/-- How a place is written. -/
def text : Place → String
  | [] => "<root>"
  | .key name :: rest => name ++ textAfter rest
  | place => textAfter place

/-- The place under a key. -/
def key (p : Place) (name : String) : Place := p ++ [.key name]

/-- The place of an item. -/
def index (p : Place) (i : Nat) : Place := p ++ [.index i]

/-- The part of a value at a place. -/
def node? : Place → Value → Option Value
  | [], v => some v
  | .key name :: rest, v => (v.field? name).bind (node? rest)
  | .index i :: rest, .array items => (items[i]?).bind (node? rest)
  | .index _ :: _, _ => none

end Place

/-- What is wrong at a place. -/
inductive Problem where
  | notAMap (kind : String)
  | notAString (kind : String)
  | notABoolean (kind : String)
  | notAListOrMap (kind : String)
  /-- A list item without this field. -/
  | missingField (name : String)
  | blankRequestName
  | emptyHeaderName
  | unknownTest (key : String)
  | unknownCapture (key : String)
  | badDescriptor (error : DescriptorError)
deriving DecidableEq, Repr

/-- What a problem is reported as. -/
def Problem.message : Problem → String
  | notAMap kind => "expected a map, found " ++ kind
  | notAString kind => "expected a string, found " ++ kind
  | notABoolean kind => "expected a boolean, found " ++ kind
  | notAListOrMap kind => "expected a list or a map, found " ++ kind
  | missingField name => "missing '" ++ name ++ "'"
  | blankRequestName => "request name must not be empty"
  | emptyHeaderName => "header name is empty"
  | unknownTest key =>
    "unknown test key '" ++ key ++
      "', expected status, body, headers, json, $.<path> or $h.<header>"
  | unknownCapture key =>
    "unknown capture key '" ++ key ++ "', expected status, body, headers or json"
  | badDescriptor error => error.message

/-- Something wrong at a place. -/
structure SchemaError where
  place : Place
  problem : Problem
deriving DecidableEq, Repr

/-- What a refused bundle is reported as. -/
def SchemaError.message (e : SchemaError) : String :=
  e.place.text ++ ": " ++ e.problem.message

/-- Reading a bundle, with the notices collected on the way. -/
abbrev Reading := ExceptT SchemaError (StateM (List Notice))

namespace Reading

/-- Refuses what stands at a place. -/
def refuse {α : Type} (place : Place) (problem : Problem) : Reading α :=
  throw ⟨place, problem⟩

/-- Collects a notice. -/
def note (n : Notice) : Reading Unit :=
  modify (· ++ [n])

/-- The result of reading, and the notices. -/
def outcome {α : Type} (r : Reading α) : Except SchemaError α × List Notice :=
  r.run.run []

/-- The fields of a map. -/
def fields (place : Place) : Value → Reading (Table Value)
  | .object fields => pure fields
  | v => refuse place (.notAMap v.kind)

/-- A text. -/
def string (place : Place) : Value → Reading String
  | .string s => pure s
  | v => refuse place (.notAString v.kind)

/-- A truth value. -/
def bool (place : Place) : Value → Reading Bool
  | .bool b => pure b
  | v => refuse place (.notABoolean v.kind)

/-- Applies a step to each item of a list with its position, which starts at `i`. -/
def eachItem {α : Type} (place : Place) (step : Place → Value → Reading α) :
    Nat → List Value → Reading (List α)
  | _, [] => pure []
  | i, v :: rest => do
    let a ← step (place.index i) v
    return a :: (← eachItem place step (i + 1) rest)

end Reading

end RequestSuite
