import RequestSuite.Location
import RequestSuite.Text.Blank
import RequestSuite.Text.Lower
import RequestSuite.Toml.Reader
import RequestSuite.Variable.Expansion
import RequestSuite.Yaml.Value

/-!
# Variable files

A variable file maps the names of environments to their variables, in one of two formats, which the
extension of its location tells.  Outer variables may be used in its texts.  This module also reads
the assignments of variables on a command line.
-/

namespace RequestSuite

/-- The formats of variable files. -/
inductive VariableFormat where
  | yaml
  | toml
deriving DecidableEq, Repr

/-- Why a variable file cannot be used. -/
inductive VariableFileError where
  /-- The file cannot be read, for a reason that the system gives. -/
  | unreadable (location reason : String)
  | yaml (fault : Yaml.Fault)
  | toml (fault : Toml.Fault)
deriving DecidableEq, Repr

/-- What a refused variable file is reported as. -/
def VariableFileError.message : VariableFileError → String
  | .unreadable location reason => "Failed to read variable file " ++ location ++ ": " ++ reason
  | .yaml fault => "Failed to parse YAML variable file: " ++ fault.message
  | .toml fault => "Failed to parse TOML variable file: " ++ fault.message

namespace VariableFormat

/-- The format of a file with a location. -/
def ofLocation (location : String) : VariableFormat :=
  match Location.extension? location with
  | some e => if Text.sameIgnoringCase e "toml" then .toml else .yaml
  | none => .yaml

end VariableFormat

/-- The environments in a value that has to be a map of maps. -/
def EnvironmentSet.ofValue (v : Value) : Except Toml.Fault EnvironmentSet := do
  let fields (v : Value) : Except Toml.Fault (List (String × Value)) :=
    match v with
    | .object fields => .ok fields
    | v => .error (.wrongKind "a map" v.kind)
  let envs ← (← fields v).mapM fun env => do return (env.1, ← fields env.2)
  return .ofList envs

/-- The environments in the content of a variable file, as they are written.  A blank file has
none. -/
def EnvironmentSet.read (format : VariableFormat) (content : String) :
    Except VariableFileError EnvironmentSet :=
  if Text.isBlankText content then .ok .empty
  else
    match format with
    | .yaml => (Yaml.readEnvironments content).mapError .yaml
    | .toml => ((Toml.readValue content).bind EnvironmentSet.ofValue).mapError .toml

/-- The environments in the content of a variable file, with the outer variables filled in. -/
def EnvironmentSet.ofText (outer : Expansion.Surroundings) (format : VariableFormat)
    (content : String) : Except VariableFileError EnvironmentSet :=
  (EnvironmentSet.read format content).map (EnvironmentSet.expand outer)

/-- The name and the value of an assignment on a command line: what stands before and after its
first equals sign, without blanks around them. -/
def readAssignment? (text : String) : Option (String × String) :=
  match text.toList.dropWhile (· != '=') with
  | [] => none
  | _ :: value =>
    some (String.ofList (Text.trimChars (text.toList.takeWhile (· != '='))),
      String.ofList (Text.trimChars value))

end RequestSuite
