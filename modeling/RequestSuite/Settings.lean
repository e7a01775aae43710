import RequestSuite.Http.Client
import RequestSuite.Location
import RequestSuite.Toml.Reader

/-!
# Settings

The settings file tells how requests are sent and which environment and variable files are used if
the command line names none.  Everything in it may be left out.
-/

namespace RequestSuite

/-- How requests are sent. -/
structure HttpSettings where
  /-- After how many seconds a request is given up; zero for never. -/
  timeoutSeconds : Nat := 30
  /-- Whether the kind of a JSON body is added to the headers. -/
  autoContentType : Bool := true
  userAgent : Option String := none
deriving DecidableEq, Repr

/-- How bundles are run. -/
structure RunSettings where
  environment : Option String := none
  /-- The locations of variable files. -/
  variableFiles : List String := []
  /-- The milliseconds between two messages about the progress. -/
  progressInterval : Nat := 1000
deriving DecidableEq, Repr

/-- The content of a settings file. -/
structure Settings where
  http : HttpSettings := {}
  run : RunSettings := {}
deriving DecidableEq, Repr

/-- Why a settings file cannot be used. -/
inductive SettingsError where
  /-- The file cannot be read, for a reason that the system gives. -/
  | unreadable (location reason : String)
  | invalid (location : String) (fault : Toml.Fault)
deriving DecidableEq, Repr

/-- What a refused settings file is reported as. -/
def SettingsError.message : SettingsError → String
  | .unreadable location reason => "Failed to read config file " ++ location ++ ": " ++ reason
  | .invalid location fault =>
    "Failed to parse config file " ++ location ++ ": " ++ fault.message

/-- The client with the settings. -/
def HttpSettings.client (s : HttpSettings) : Client :=
  { timeout := if s.timeoutSeconds = 0 then none else some (s.timeoutSeconds * 1000)
    autoContentType := s.autoContentType
    userAgent := s.userAgent }

/-- The milliseconds between two messages about the progress, at least one. -/
def RunSettings.interval (s : RunSettings) : Nat :=
  max 1 s.progressInterval

namespace Settings

/-! ## Reading settings -/

/-- A whole number that is not negative. -/
def natOf : Value → Except Toml.Fault Nat
  | .number (.int i) =>
    if 0 ≤ i then .ok i.toNat else .error (.wrongKind "a whole number" "a negative number")
  | v => .error (.wrongKind "a whole number" v.kind)

/-- A truth value. -/
def boolOf : Value → Except Toml.Fault Bool
  | .bool b => .ok b
  | v => .error (.wrongKind "a boolean" v.kind)

/-- A text. -/
def stringOf : Value → Except Toml.Fault String
  | .string s => .ok s
  | v => .error (.wrongKind "a string" v.kind)

/-- A list of texts. -/
def stringsOf : Value → Except Toml.Fault (List String)
  | .array items => items.mapM stringOf
  | v => .error (.wrongKind "a list" v.kind)

/-- The fields of a section, which may also be written as the list of their values. -/
def sectionFields (names : List String) : Value → Except Toml.Fault (Table Value)
  | .object fields => .ok fields
  | .array items => .ok (names.zip items)
  | v => .error (.wrongKind "a map" v.kind)

/-- A field if it is there, or else what it is without being told. -/
def field {α : Type} (fields : Table Value) (name : String) (read : Value → Except Toml.Fault α)
    (standard : α) : Except Toml.Fault α :=
  match fields.get? name with
  | some v => read v
  | none => .ok standard

/-- The section on sending requests. -/
def httpOf (v : Value) : Except Toml.Fault HttpSettings := do
  let standard : HttpSettings := {}
  let fields ← sectionFields ["timeout_secs", "auto_content_type", "user_agent"] v
  return {
    timeoutSeconds := ← field fields "timeout_secs" natOf standard.timeoutSeconds
    autoContentType := ← field fields "auto_content_type" boolOf standard.autoContentType
    userAgent := ← field fields "user_agent" (fun v => (stringOf v).map some) none }

/-- The section on running bundles. -/
def runOf (v : Value) : Except Toml.Fault RunSettings := do
  let standard : RunSettings := {}
  let fields ← sectionFields ["env", "var_files", "progress_interval_ms"] v
  return {
    environment := ← field fields "env" (fun v => (stringOf v).map some) none
    variableFiles := ← field fields "var_files" stringsOf []
    progressInterval := ← field fields "progress_interval_ms" natOf standard.progressInterval }

/-- The settings that a document describes. -/
def ofValue (v : Value) : Except Toml.Fault Settings := do
  let fields ← sectionFields [] v
  return { http := ← field fields "http" httpOf {}, run := ← field fields "run" runOf {} }

/-- The settings in the content of the file at a location.  Variable files are meant as seen from
its directory. -/
def ofText (location content : String) : Except SettingsError Settings := do
  let settings ← ((Toml.readValue content).bind ofValue).mapError (.invalid location)
  match Location.parent? location with
  | some directory =>
    let files := settings.run.variableFiles.map (Location.join directory)
    return { settings with run := { settings.run with variableFiles := files } }
  | none => return settings

end Settings

end RequestSuite
