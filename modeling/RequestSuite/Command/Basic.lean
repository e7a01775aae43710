/-!
# Commands

What a command line asks for: to run a bundle, or to list the environments that it can be run with.
-/

namespace RequestSuite

/-- How a bundle is to be run. -/
structure RunOrder where
  /-- The location of the bundle. -/
  bundle : String
  environment : Option String := none
  /-- The locations of variable files. -/
  variableFiles : List String := []
  /-- Assignments of variables. -/
  assignments : List (String × String) := []
  /-- The only request to be run. -/
  request : Option String := none
  /-- The location of the settings. -/
  settings : Option String := none
deriving DecidableEq, Repr

/-- What a command line asks for. -/
inductive Command where
  | run (order : RunOrder)
  /-- To list the environments of a bundle and of variable files. -/
  | environments (bundle : String) (variableFiles : List String)
deriving DecidableEq, Repr

/-- A command, and whether it is to tell everything. -/
structure Invocation where
  command : Command
  verbose : Bool
deriving DecidableEq, Repr

end RequestSuite
