import RequestSuite.Bundle.Reader
import RequestSuite.Request.Merge
import RequestSuite.Settings
import RequestSuite.Variable.File

/-!
# Errors

Everything that keeps a command from being carried out, with the words in which it is told.
-/

namespace RequestSuite

/-- Why a command cannot be carried out. -/
inductive SuiteError where
  | bundle (error : BundleError)
  /-- A request lacks something. -/
  | incomplete (error : MissingField)
  | variableFile (error : VariableFileError)
  | settings (error : SettingsError)
  | unknownRequest (name : String)
deriving DecidableEq, Repr

/-- What an error is reported as. -/
def SuiteError.message : SuiteError → String
  | bundle e => "Bundle error: " ++ e.message
  | incomplete e => "Invalid request: " ++ e.message
  | variableFile e => "Variable file error: " ++ e.message
  | settings e => "Config error: " ++ e.message
  | unknownRequest name => "Unknown request: " ++ name

end RequestSuite
