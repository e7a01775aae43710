import RequestSuite.Error

/-!
# What a command asks of the machine

A command reads files, and finds its settings in the current directory or in one above it, or else
in the home directory of the user.  The answers come in a monad, so that the same command can be
carried out on a real machine and on one that is given as a value.
-/

namespace RequestSuite

/-- What a machine answers. -/
structure Machine (m : Type → Type) where
  /-- The content of the file at a location, or why it cannot be read. -/
  read : String → m (Except String String)
  /-- Whether there is a file at a location. -/
  isFile : String → m Bool
  /-- The location of the current directory. -/
  currentDirectory : m (Option String)
  /-- The location of the user's directory. -/
  homeDirectory : m (Option String)
  /-- The value of an outer variable. -/
  outerVariable : String → m (Option String)

/-- Why a command is not carried out, with the place in which the command came upon it. -/
inductive CommandError where
  | settings (error : SettingsError)
  | bundle (location : String) (error : BundleError)
  | variableFile (error : VariableFileError)
  | unknownRequest (name : String)
deriving DecidableEq, Repr

/-- The fault of a document, or the reason that the system gives, behind an error. -/
def BundleError.cause? : BundleError → Option String
  | .yaml fault => some fault.message
  | .unreadable reason => some reason
  | .schema _ => none
  | .noRequests => none

/-- The fault of a document, or the reason that the system gives, behind an error. -/
def SettingsError.cause? : SettingsError → Option String
  | .unreadable _ reason => some reason
  | .invalid _ fault => some fault.message

/-- The fault of a document, or the reason that the system gives, behind an error. -/
def VariableFileError.cause? : VariableFileError → Option String
  | .unreadable _ reason => some reason
  | .yaml fault => some fault.message
  | .toml fault => some fault.message

namespace CommandError

/-- What an error is reported as, from what was to be done down to what is behind it. -/
def chain : CommandError → List String
  | settings e => e.message :: e.cause?.toList
  | bundle location e => ("Failed to load bundle " ++ location) :: e.message :: e.cause?.toList
  | variableFile e => e.message :: e.cause?.toList
  | unknownRequest name => [(SuiteError.unknownRequest name).message]

/-- What an error is reported as. -/
def message (e : CommandError) : String :=
  ": ".intercalate e.chain

end CommandError

/-- Something that may fail and gives notices, on a machine. -/
abbrev Task (m : Type → Type) := ExceptT CommandError (StateT (List Notice) m)

namespace Machine

variable {m : Type → Type} [Monad m]

/-- Asks a machine. -/
def ask {α : Type} (question : m α) : Task m α :=
  liftM (n := Task m) (liftM (n := StateT (List Notice) m) question)

/-- Gives notices. -/
def note (notices : List Notice) : Task m Unit :=
  modify (· ++ notices)

/-! ## Settings -/

/-- The name of the files that hold settings. -/
def settingsName : String := "restbundle.toml"

/-- The first of some locations at which there is a file. -/
def firstFile? (machine : Machine m) : List String → m (Option String)
  | [] => return none
  | location :: rest => do
    if ← machine.isFile location then return some location
    machine.firstFile? rest

/-- The locations at which settings are looked for. -/
def settingsLocations (current home : Option String) : List String :=
  match current with
  | none => []
  | some directory =>
    (Location.ancestors directory).map (Location.join · settingsName) ++
      (home.map fun home =>
        [".config", "restbundle", settingsName].foldl Location.join home).toList

/-- The settings at a location. -/
def readSettings (machine : Machine m) (location : String) : Task m Settings := do
  match ← ask (machine.read location) with
  | .error reason => throw (.settings (.unreadable location reason))
  | .ok content =>
    match Settings.ofText location content with
    | .ok settings => return settings
    | .error e => throw (.settings e)

/-- The settings at a location, or those that are found if no location is given. -/
def settings (machine : Machine m) (location : Option String) : Task m Settings := do
  match location with
  | some location => machine.readSettings location
  | none =>
    let locations :=
      settingsLocations (← ask machine.currentDirectory) (← ask machine.homeDirectory)
    match ← ask (machine.firstFile? locations) with
    | some location => machine.readSettings location
    | none => return {}

/-! ## Bundles and variable files -/

/-- The bundle at a location. -/
def bundle (machine : Machine m) (location : String) : Task m Bundle := do
  match ← ask (machine.read location) with
  | .error reason => throw (.bundle location (.unreadable reason))
  | .ok content =>
    let (result, notices) := Bundle.ofText content
    note notices
    match result with
    | .ok b => return b
    | .error e => throw (.bundle location e)

/-- The values of outer variables, as far as they are set. -/
def outerValues (machine : Machine m) : List String → m (Table String)
  | [] => return []
  | name :: rest => do
    let found ← machine.outerVariable name
    let others ← machine.outerValues rest
    return ((found.map fun value => (name, value)).toList) ++ others

/-- The environments in the variable file at a location. -/
def variableFile (machine : Machine m) (location : String) : Task m EnvironmentSet := do
  match ← ask (machine.read location) with
  | .error reason => throw (.variableFile (.unreadable location reason))
  | .ok content =>
    match EnvironmentSet.read (.ofLocation location) content with
    | .error e => throw (.variableFile e)
    | .ok set =>
      let outer ← ask (machine.outerValues (distinct set.outerNames))
      return set.expand outer.get?

/-- The environments in the variable files at some locations. -/
def variableFiles (machine : Machine m) (locations : List String) :
    Task m (List EnvironmentSet) :=
  locations.mapM machine.variableFile

end Machine

end RequestSuite
