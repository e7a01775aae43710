import RequestSuite.Bundle.Basic
import RequestSuite.Bundle.Place
import RequestSuite.Yaml.Value

/-!
# Reading bundles

A bundle is read from a document that is a map.  Headers and parameters may be written as a list of
names and values or as a map, tests and captures have a short notation besides their sections, and
keys without meaning are passed over with a notice.
-/

namespace RequestSuite

namespace Bundle

open Reading

/-! ## Headers and parameters -/

/-- A field that a list item has to have. -/
def requiredField (place : Place) (entry : Table Value) (name : String) : Reading Value :=
  match entry.get? name with
  | some v => pure v
  | none => refuse place (.missingField name)

/-- The name and the value of a list item, and all its fields. -/
def readPair (place : Place) (v : Value) : Reading (String × Value × Table Value) := do
  let entry ← fields place v
  let name ← string (place.key "name") (← requiredField place entry "name")
  let value ← requiredField place entry "value"
  return (name, value, entry)

/-- A header of a list. -/
def readHeaderItem (place : Place) (v : Value) : Reading (String × Value) := do
  let (name, value, _) ← readPair place v
  return (name, value)

/-- Headers, as a list or a map. -/
def readHeaders (place : Place) : Value → Reading (List (String × Value))
  | .null => pure []
  | .array items => eachItem place readHeaderItem 0 items
  | .object entries => pure entries
  | v => refuse place (.notAListOrMap v.kind)

/-- A parameter of a list. -/
def readParamItem (place : Place) (v : Value) : Reading Param := do
  let (name, value, entry) ← readPair place v
  let encode ← match entry.get? "encode" with
    | some flag => bool (place.key "encode") flag
    | none => pure true
  return ⟨name, value, encode⟩

/-- The parameters of a field of a map: one for each item if the value is a list. -/
def paramsOfField (name : String) : Value → List Param
  | .array items => items.map fun v => ⟨name, v, true⟩
  | v => [⟨name, v, true⟩]

/-- Parameters, as a list or a map. -/
def readParams (place : Place) : Value → Reading (List Param)
  | .null => pure []
  | .array items => eachItem place readParamItem 0 items
  | .object entries => pure (entries.flatMap fun e => paramsOfField e.1 e.2)
  | v => refuse place (.notAListOrMap v.kind)

/-! ## Options, tests and captures -/

/-- The fields of a section that may be left blank. -/
def sectionFields (place : Place) : Value → Reading (Table Value)
  | .null => pure []
  | v => fields place v

/-- Sets the option of a key, or tells that there is none. -/
def readOption (place : Place) (o : Options (Option Bool)) (entry : String × Value) :
    Reading (Options (Option Bool)) := do
  let flag ← bool (place.key entry.1) entry.2
  match o.set? entry.1 (some flag) with
  | some o => return o
  | none =>
    note (.unknownOption entry.1 place.text)
    return o

/-- The section of the options. -/
def readOptions (place : Place) (v : Value) : Reading (Options (Option Bool)) := do
  (← sectionFields place v).foldlM (readOption place) .unset

/-- Adds the tests of a key: of one of the four sections, or a single test of a header or a path in
the short notation. -/
def readTest (place : Place) (t : TestSection) (entry : String × Value) :
    Reading TestSection := do
  let (key, v) := entry
  match key with
  | "status" => return { t with status := some v }
  | "body" => return { t with body := some v }
  | "headers" => return { t with headers := t.headers ++ (← readHeaders (place.key key) v) }
  | "json" => return { t with json := t.json ++ (← fields (place.key key) v) }
  | _ =>
    match key.toList with
    | '$' :: 'h' :: '.' :: name =>
      if name.isEmpty then refuse (place.key key) .emptyHeaderName
      else return { t with headers := t.headers ++ [(String.ofList name, v)] }
    | s =>
      if Source.isPathText s then return { t with json := t.json ++ [(key, v)] }
      else refuse (place.key key) (.unknownTest key)

/-- The section of the tests. -/
def readTests (place : Place) (v : Value) : Reading TestSection := do
  (← sectionFields place v).foldlM (readTest place) {}

/-- The variable that a key of a map of captures names. -/
def readTarget (place : Place) (entry : String × Value) : Reading (String × String) := do
  return (entry.1, ← string (place.key entry.1) entry.2)

/-- Sets the captures of a key. -/
def readCapture (place : Place) (c : CaptureSection) (entry : String × Value) :
    Reading CaptureSection := do
  let (key, v) := entry
  let place' := place.key key
  match key with
  | "status" => return { c with status := some (← string place' v) }
  | "body" => return { c with body := some (← string place' v) }
  | "headers" => return { c with headers := ← (← fields place' v).mapM (readTarget place') }
  | "json" => return { c with json := ← (← fields place' v).mapM (readTarget place') }
  | _ => refuse place' (.unknownCapture key)

/-- Adds the section of the captures to what is known of them. -/
def readCaptures (place : Place) (c : CaptureSection) (v : Value) : Reading CaptureSection := do
  (← sectionFields place v).foldlM (readCapture place) c

/-- A capture in the short notation. -/
def readSetvar (place : Place) (entry : String × Value) : Reading Capture := do
  let place := place.key entry.1
  match Source.ofDescriptor (← string place entry.2) with
  | .ok source => return ⟨entry.1, source⟩
  | .error e => refuse place (.badDescriptor e)

/-- The section of captures in the short notation. -/
def readSetvars (place : Place) (v : Value) : Reading (List Capture) := do
  (← sectionFields place v).mapM (readSetvar place)

/-! ## Layers -/

/-- Sets what a key says, if it is one of those that requests and the common layer share. -/
def readLayerField? (place : Place) (layer : Layer) (key : String) (v : Value) :
    Option (Reading Layer) :=
  let place := place.key key
  match key with
  | "method" => some do return { layer with method := some (← string place v) }
  | "headers" => some do return { layer with headers := ← readHeaders place v }
  | "params" => some do return { layer with params := ← readParams place v }
  | "body" => some (pure { layer with body := some v })
  | "options" => some do return { layer with options := ← readOptions place v }
  | "tests" => some do return { layer with tests := ← readTests place v }
  | "capture" => some do return { layer with captures := ← readCaptures place layer.captures v }
  | "setvars" => some do
    return { layer with captures := { layer.captures with setvars := ← readSetvars place v } }
  | _ => none

/-- Sets what a key says in common. -/
def readCommonField (place : Place) (common : CommonLayer) (entry : String × Value) :
    Reading CommonLayer := do
  let (key, v) := entry
  if key = "baseUrl" then return { common with baseUrl := some (← string (place.key key) v) }
  else
    match readLayerField? place common.toLayer key v with
    | some layer => return { common with toLayer := ← layer }
    | none =>
      note (.unknownKey key place.text)
      return common

/-- Sets what a key says about a request. -/
def readRequestField (place : Place) (request : RequestLayer) (entry : String × Value) :
    Reading RequestLayer := do
  let (key, v) := entry
  if key = "url" then return { request with url := some (← string (place.key key) v) }
  else
    match readLayerField? place request.toLayer key v with
    | some layer => return { request with toLayer := ← layer }
    | none =>
      note (.unknownKey key place.text)
      return request

/-- What is said in common. -/
def readCommon (place : Place) (v : Value) : Reading CommonLayer := do
  (← fields place v).foldlM (readCommonField place) {}

/-- What is said about the request of a name. -/
def readRequest (place : Place) (entry : String × Value) : Reading RequestLayer := do
  if Text.isBlankText entry.1 then refuse place .blankRequestName
  let place := place.key entry.1
  (← fields place entry.2).foldlM (readRequestField place) { name := entry.1 }

/-- All requests. -/
def readRequests (place : Place) (v : Value) : Reading (List RequestLayer) := do
  (← fields place v).mapM (readRequest place)

/-- The variables of an environment. -/
def readEnvironment (place : Place) (entry : String × Value) :
    Reading (String × Environment) := do
  return (entry.1, ← fields (place.key entry.1) entry.2)

/-- The variables of all environments. -/
def readEnvironments (place : Place) (v : Value) : Reading EnvironmentSet := do
  return .ofList (← (← sectionFields place v).mapM (readEnvironment place))

/-! ## Documents -/

/-- Sets what a key at the top says. -/
def readTopField (b : Bundle) (entry : String × Value) : Reading Bundle := do
  let (key, v) := entry
  let place : Place := [.key key]
  match key with
  | "common" => return { b with common := some (← readCommon place v) }
  | "requests" => return { b with requests := ← readRequests place v }
  | "variables" => return { b with environments := ← readEnvironments place v }
  | _ =>
    note (.unknownSection key)
    return b

/-- The bundle that a value describes; it may lack requests. -/
def ofValue (v : Value) : Reading Bundle := do
  (← fields [] v).foldlM readTopField {}

end Bundle

/-- Why a text is no bundle. -/
inductive BundleError where
  | yaml (fault : Yaml.Fault)
  | schema (error : SchemaError)
  /-- The file cannot be read, for a reason that the system gives. -/
  | unreadable (reason : String)
  | noRequests
deriving DecidableEq, Repr

/-- What a refused bundle is reported as. -/
def BundleError.message : BundleError → String
  | .yaml fault => "Invalid YAML: " ++ fault.message
  | .schema error => error.message
  | .unreadable reason => "IO error: " ++ reason
  | .noRequests => "No requests found in bundle"

/-- The bundle that a text describes, which has at least one request, and the notices about it. -/
def Bundle.ofText (content : String) : Except BundleError Bundle × List Notice :=
  if Text.isBlankText content then (.error .noRequests, [])
  else
    match Yaml.readValue content with
    | .error fault => (.error (.yaml fault), [])
    | .ok v =>
      match (Bundle.ofValue v).outcome with
      | (.error e, notices) => (.error (.schema e), notices)
      | (.ok b, notices) =>
        (if b.requests.isEmpty then .error .noRequests else .ok b, notices)

end RequestSuite
