import RequestSuite.Command.Machine

/-!
# Machines given as values

A tree of files is given by the files with their locations from the root.  Names of directories are
followed one by one: two dots lead back, and whatever stands before a slash has to be a directory.
-/

namespace RequestSuite

/-- The names that lead from the root to a place. -/
abbrev Route := List String

/-- Files and directories. -/
structure FileTree where
  /-- The files with their contents. -/
  files : List (Route × String) := []
  /-- Directories, whether or not there is anything in them. -/
  directories : List Route := []

/-- Why nothing is found at a location. -/
inductive FileFault where
  | missing
  | notDirectory
  | isDirectory
deriving DecidableEq, Repr

/-- What a system calls a fault. -/
def FileFault.message : FileFault → String
  | missing => "No such file or directory (os error 2)"
  | notDirectory => "Not a directory (os error 20)"
  | isDirectory => "Is a directory (os error 21)"

namespace FileTree

/-- Whether there is a directory at the end of a route. -/
def isDirectory (t : FileTree) (route : Route) : Bool :=
  route.isEmpty || t.directories.any (route.isPrefixOf ·) ||
    t.files.any fun f => route.isPrefixOf f.1 && f.1 != route

/-- Whether there is a file at the end of a route. -/
def isFile (t : FileTree) (route : Route) : Bool :=
  t.files.any fun f => f.1 == route

/-- Follows a name from the end of a route. -/
def follow (t : FileTree) (route : Route) (name : String) : Except FileFault Route :=
  if !t.isDirectory route then .error .notDirectory
  else if name = "" ∨ name = "." then .ok route
  else if name = ".." then .ok route.dropLast
  else if t.isDirectory (route ++ [name]) || t.isFile (route ++ [name]) then
    .ok (route ++ [name])
  else .error .missing

/-- The route to a location as seen from a directory. -/
def route (t : FileTree) (directory : Route) (location : String) : Except FileFault Route :=
  if location = "" then .error .missing
  else
    (location.splitOn "/").foldlM t.follow (if Location.isAbsolute location then [] else directory)

/-- The content of the file at a location. -/
def read (t : FileTree) (directory : Route) (location : String) : Except FileFault String := do
  let route ← t.route directory location
  match t.files.lookup route with
  | some content => return content
  | none => throw .isDirectory

/-- The location of the end of a route. -/
def location (route : Route) : String :=
  "/" ++ "/".intercalate route

/-- The machine with a tree of files, a current directory, a home directory and outer variables. -/
def machine (t : FileTree) (directory : Route) (home : Option String)
    (outer : String → Option String) : Machine Id where
  read location := (t.read directory location).mapError FileFault.message
  isFile location := (t.read directory location).isOk
  currentDirectory := some (FileTree.location directory)
  homeDirectory := home
  outerVariable := outer

end FileTree

end RequestSuite
