/-!
# Notices

What a command tells besides its result: warnings about parts of a document that it ignores and
about requests that went wrong, and errors that kept it from sending anything.
-/

namespace RequestSuite

/-- How grave a notice is. -/
inductive Level where
  | warning
  | error
deriving DecidableEq, Repr

/-- Something worth telling besides the result. -/
inductive Notice where
  /-- A section of the document that has no meaning. -/
  | unknownSection (key : String)
  /-- A key of a request or of the common section that has no meaning. -/
  | unknownKey (key place : String)
  /-- An option that has no meaning. -/
  | unknownOption (key place : String)
  /-- A method that is not known and was replaced. -/
  | unknownMethod (text : String)
  /-- Variables that were mentioned but have no value. -/
  | undefinedVariables (names : List String)
  /-- A value that could not be captured. -/
  | captureFailed (text : String)
  /-- A request that got no response. -/
  | requestFailed (text : String)
  /-- A request that lacks something. -/
  | requestInvalid (text : String)
  /-- Nothing was sent because of invalid requests. -/
  | nothingSent
  /-- An environment that no source of variables defines. -/
  | unknownEnvironment (name : String)
deriving DecidableEq, Repr

namespace Notice

/-- How grave a notice is. -/
def level : Notice → Level
  | requestInvalid _ | nothingSent => .error
  | _ => .warning

/-- The text of a notice. -/
def message : Notice → String
  | unknownSection key => "Ignoring unknown top-level key '" ++ key ++ "'"
  | unknownKey key place => "Ignoring unknown key '" ++ key ++ "' in " ++ place
  | unknownOption key place => "Ignoring unknown option '" ++ key ++ "' in " ++ place
  | unknownMethod text => "Invalid HTTP method: " ++ text ++ ", falling back to GET"
  | undefinedVariables names => "Undefined variables: " ++ ", ".intercalate names
  | captureFailed text => text
  | requestFailed text => text
  | requestInvalid text => text
  | nothingSent => "Bundle contains invalid requests, nothing was sent"
  | unknownEnvironment name =>
    "Environment '" ++ name ++ "' is not defined in any variable source"

end Notice

end RequestSuite
