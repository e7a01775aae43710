import RequestSuite.Command.Basic
import RequestSuite.Command.Machine
import RequestSuite.Display.Run

/-!
# Carrying out commands

What a command prints, and whether everything went well.
-/

namespace RequestSuite

/-- What came of a command that was carried out. -/
structure Printout where
  text : String
  success : Bool
deriving DecidableEq, Repr

namespace Command

variable {m : Type → Type} [Monad m] {σ : Type}

/-- Whether an environment is defined in a bundle or in variable files. -/
def isKnown (name : String) (b : Bundle) (external : List EnvironmentSet) : Bool :=
  (b.environments :: external).any fun set => (set.get? name).isSome

/-- The notice about a selected environment that is defined nowhere. -/
def environmentNotices (session : Session) : List Notice :=
  match session.sources.environment with
  | none => []
  | some name =>
    if isKnown name session.bundle session.sources.external then []
    else [.unknownEnvironment name]

/-- The session that an order asks for. -/
def session (machine : Machine m) (order : RunOrder) : Task m Session := do
  let settings ← machine.settings order.settings
  let bundle ← machine.bundle order.bundle
  let external ← machine.variableFiles (settings.run.variableFiles ++ order.variableFiles)
  return {
    bundle := bundle
    client := settings.http.client
    sources := {
      environment := order.environment.or settings.run.environment
      external := external
      assignments := order.assignments } }

/-- A finished run as it is printed. -/
def printRun (view : RunView) (title : String) (r : Run) : Printout :=
  ⟨title ++ String.join (r.results.map view.resultText) ++ view.summaryText r.summary,
    r.summary.isSuccess⟩

/-- Runs a bundle through a network. -/
def runBundle (machine : Machine m) (net : Network σ) (state : σ) (view : RunView) (order : RunOrder) :
    Task m Printout := do
  let session ← session machine order
  Machine.note (environmentNotices session)
  match order.request with
  | none =>
    let (r, notices, _) := session.runAll net state
    Machine.note notices
    return printRun view (view.titleText order.bundle session.bundle.requests.length) r
  | some name =>
    match session.runOne? net name state with
    | none => throw (.unknownRequest name)
    | some (r, notices, _) =>
      Machine.note notices
      return printRun view "" r

/-- Environments as they are listed. -/
def listText (set : EnvironmentSet) : String :=
  if set.isEmpty then "No environments defined\n" else RunView.block set.names

/-- Lists the environments of a bundle and of variable files. -/
def listEnvironments (machine : Machine m) (bundle : String) (variableFiles : List String) :
    Task m Printout := do
  let b ← machine.bundle bundle
  let sets ← machine.variableFiles variableFiles
  return ⟨listText (.mergeAll (sets ++ [b.environments])), true⟩

/-- Carries out a command. -/
def execute (machine : Machine m) (net : Network σ) (state : σ) (view : RunView) :
    Command → Task m Printout
  | .run order => runBundle machine net state view order
  | .environments bundle variableFiles => listEnvironments machine bundle variableFiles

end Command

/-- Carries out what a command line asks for; the notices that were given come with the result. -/
def Invocation.execute {m : Type → Type} [Monad m] {σ : Type} (machine : Machine m)
    (net : Network σ) (state : σ) (styled : Bool) (i : Invocation) :
    m (Except CommandError Printout × List Notice) :=
  (i.command.execute machine net state ⟨i.verbose, styled⟩).run.run []

end RequestSuite
