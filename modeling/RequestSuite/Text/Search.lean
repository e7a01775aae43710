/-!
# Searching texts

Whether a text occurs in another one.
-/

namespace RequestSuite.Text

/-- Whether characters occur in a row in others. -/
def occurs (needle : List Char) : List Char → Bool
  | [] => needle.isEmpty
  | c :: rest => needle.isPrefixOf (c :: rest) || occurs needle rest

/-- Whether a text contains another one. -/
def contains (text needle : String) : Bool :=
  occurs needle.toList text.toList

end RequestSuite.Text
