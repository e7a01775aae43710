/-!
# Lines

A text falls into lines, each ended by a line feed that may have a carriage return before it.  The
last line needs no end.
-/

namespace RequestSuite.Text

/-- The lines of a text whose first line starts with given characters, the last of them first. -/
def splitLines (start : List Char) : List Char → List (List Char)
  | [] => if start.isEmpty then [] else [start.reverse]
  | c :: rest =>
    if c = '\n' then
      let line := match start with
        | '\r' :: line => line
        | line => line
      line.reverse :: splitLines [] rest
    else splitLines (c :: start) rest

/-- The lines of a text, without what ends them. -/
def lines (s : String) : List String :=
  (splitLines [] s.toList).map String.ofList

end RequestSuite.Text
