import RequestSuite.Command.Arguments
import RequestSuite.Command.Execution
import RequestSuite.Http.Unreachable

/-!
# The program

The command line of the program.  It has no connection to any network: requests are built and
checked, and then fail to connect.
-/

namespace RequestSuite.Program

/-- What the system calls a fault of reading a file. -/
def faultText (e : IO.Error) : String :=
  match e with
  | .noFileOrDirectory .. => "No such file or directory (os error 2)"
  | .permissionDenied .. => "Permission denied (os error 13)"
  | .inappropriateType .. => "Is a directory (os error 21)"
  | e => toString e

/-- The content of a file, or why it cannot be read. -/
def readFile (location : String) : IO (Except String String) := do
  try
    return .ok (← IO.FS.readFile location)
  catch e =>
    return .error (faultText e)

/-- Whether there is a file that can be read. -/
def isFile (location : String) : IO Bool := do
  try
    let _ ← IO.FS.readBinFile location
    return true
  catch _ =>
    return false

/-- The machine on which the program runs. -/
def machine : Machine IO where
  read := readFile
  isFile := isFile
  currentDirectory := do return some (toString (← IO.currentDir))
  homeDirectory := IO.getEnv "HOME"
  outerVariable name := IO.getEnv name

/-- Whether styles are shown: on a terminal, unless the user does not want them. -/
def isStyled : IO Bool := do
  if (← IO.getEnv "NO_COLOR").isSome then return false
  (← IO.getStdout).isTty

/-- A notice as it is written to the log. -/
def logLine (n : Notice) : String :=
  (match n.level with
    | .warning => "WARN "
    | .error => "ERROR ") ++ n.message

/-- Carries out a command and tells the exit code. -/
def carryOut (i : Invocation) : IO UInt32 := do
  let (result, notices) ← i.execute machine .unreachable false (← isStyled)
  for n in notices do
    IO.eprintln (logLine n)
  match result with
  | .ok out =>
    IO.print out.text
    return if out.success then 0 else 1
  | .error e =>
    IO.eprintln ("Error: " ++ e.message)
    return 1

end RequestSuite.Program

open RequestSuite in
/-- The program. -/
def main (args : List String) : IO UInt32 := do
  match Invocation.ofArguments args with
  | .ok i => Program.carryOut i
  | .error .help =>
    IO.println UsageError.help.message
    return 0
  | .error .version =>
    IO.println UsageError.version.message
    return 0
  | .error e =>
    IO.eprintln ("error: " ++ e.message)
    return 2
