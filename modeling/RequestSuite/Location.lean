/-!
# Locations of files

A location is a text of names separated by slashes.  Locations are taken as they are written: none
is looked up and two dots are a name like any other, except that empty names and single dots in the
middle or at the end do not count.
-/

namespace RequestSuite.Location

/-- The names of a location that count. -/
def names (location : String) : List String :=
  (location.splitOn "/").filter fun name => name ≠ "" ∧ name ≠ "."

/-- Whether a location starts at the root. -/
def isAbsolute (location : String) : Bool :=
  location.toList.head? == some '/'

/-- A location as seen from a directory. -/
def join (directory location : String) : String :=
  if isAbsolute location ∨ directory = "" then location
  else if directory.toList.getLast? = some '/' then directory ++ location
  else directory ++ "/" ++ location

/-- A location, last character first, without slashes and single dots at its end. -/
def trimEnd : List Char → List Char
  | '/' :: rest => if rest.isEmpty then ['/'] else trimEnd rest
  | '.' :: '/' :: rest => if rest.isEmpty then ['/'] else trimEnd rest
  | s => s

/-- The directory of a location; nothing if it has none. -/
def parent? (location : String) : Option String :=
  match trimEnd location.toList.reverse with
  | [] | ['/'] => none
  | s => some (String.ofList (trimEnd (s.dropWhile (· != '/'))).reverse)

/-- The first `n` directories from a location upwards, the location itself first. -/
def upwards : Nat → String → List String
  | 0, location => [location]
  | n + 1, location =>
    match parent? location with
    | some directory => location :: upwards n directory
    | none => [location]

/-- The directories from a location up to the root, the location itself first. -/
def ancestors (location : String) : List String :=
  upwards location.length location

/-- What stands after the last point of the last name; nothing if that point is its first
character. -/
def extension? (location : String) : Option String :=
  match (names location).getLast? with
  | none => none
  | some name =>
    if name = ".." then none
    else
      let after := name.toList.reverse.takeWhile (· != '.')
      if after.length + 1 < name.length then some (String.ofList after.reverse) else none

end RequestSuite.Location
