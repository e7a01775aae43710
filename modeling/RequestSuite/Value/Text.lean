import RequestSuite.Value.Basic

/-!
# The text of values

A text stands for itself, null, booleans and numbers have their usual spelling, and lists and maps
are written without any spaces, texts inside them in quotation marks.  `Value.indented` is the
layout over several lines that people read.
-/

namespace RequestSuite

namespace Value

/-! ## Quoted texts -/

/-- The lower-case hexadecimal digit of a number below sixteen. -/
def hexDigit (n : Nat) : Char :=
  if n < 10 then Char.ofNat (48 + n) else Char.ofNat (87 + n)

/-- How one character is written between quotation marks: the quotation mark, the backslash and
the control characters below the blank are escaped, all else stands for itself. -/
def escapeChar (c : Char) : List Char :=
  if c = '"' then ['\\', '"']
  else if c = '\\' then ['\\', '\\']
  else if c = '\x08' then ['\\', 'b']
  else if c = '\x0c' then ['\\', 'f']
  else if c = '\n' then ['\\', 'n']
  else if c = '\r' then ['\\', 'r']
  else if c = '\t' then ['\\', 't']
  else if c.toNat < 32 then
    ['\\', 'u', '0', '0', hexDigit (c.toNat / 16), hexDigit (c.toNat % 16)]
  else [c]

/-- A text between quotation marks. -/
def quotedChars (s : String) : List Char :=
  '"' :: s.toList.flatMap escapeChar ++ ['"']

/-! ## Compact form -/

/-- The spelling of a truth value. -/
def boolChars (b : Bool) : List Char :=
  if b then "true".toList else "false".toList

mutual

/-- The value in one line without spaces. -/
def compactChars : Value → List Char
  | .null => "null".toList
  | .bool b => boolChars b
  | .number n => n.chars
  | .string s => quotedChars s
  | .array [] => ['[', ']']
  | .array (v :: rest) => '[' :: compactChars v ++ compactItems rest
  | .object [] => ['\x7b', '\x7d']
  | .object ((k, v) :: rest) =>
    '\x7b' :: quotedChars k ++ ':' :: compactChars v ++ compactFields rest

/-- The items after the first one, and the closing bracket. -/
def compactItems : List Value → List Char
  | [] => [']']
  | v :: rest => ',' :: compactChars v ++ compactItems rest

/-- The fields after the first one, and the closing brace. -/
def compactFields : List (String × Value) → List Char
  | [] => ['\x7d']
  | (k, v) :: rest => ',' :: quotedChars k ++ ':' :: compactChars v ++ compactFields rest

end

/-- The text of a value: a text itself, any other value in its compact form. -/
def text : Value → String
  | .string s => s
  | v => String.ofList v.compactChars

/-- The text of a value that may be missing. -/
def textOf : Option Value → String
  | none => "undefined"
  | some v => v.text

/-! ## Indented form -/

/-- The start of a line at a depth of nesting: a line break and two blanks for each level. -/
def lineStart (depth : Nat) : List Char :=
  '\n' :: List.replicate (2 * depth) ' '

mutual

/-- The value over several lines, one item or field on each. -/
def indentedChars (depth : Nat) : Value → List Char
  | .array [] => ['[', ']']
  | .array (v :: rest) =>
    '[' :: lineStart (depth + 1) ++ indentedChars (depth + 1) v ++ indentedItems depth rest
  | .object [] => ['\x7b', '\x7d']
  | .object ((k, v) :: rest) =>
    '\x7b' :: lineStart (depth + 1) ++ quotedChars k ++ ':' :: ' ' :: indentedChars (depth + 1) v ++
      indentedFields depth rest
  | .null => "null".toList
  | .bool b => boolChars b
  | .number n => n.chars
  | .string s => quotedChars s

/-- The items after the first one, and the closing bracket on its own line. -/
def indentedItems (depth : Nat) : List Value → List Char
  | [] => lineStart depth ++ [']']
  | v :: rest =>
    ',' :: lineStart (depth + 1) ++ indentedChars (depth + 1) v ++ indentedItems depth rest

/-- The fields after the first one, and the closing brace on its own line. -/
def indentedFields (depth : Nat) : List (String × Value) → List Char
  | [] => lineStart depth ++ ['\x7d']
  | (k, v) :: rest =>
    ',' :: lineStart (depth + 1) ++ quotedChars k ++ ':' :: ' ' :: indentedChars (depth + 1) v ++
      indentedFields depth rest

end

/-- The value over several lines with an indentation of two blanks a level. -/
def indented (v : Value) : String :=
  String.ofList (v.indentedChars 0)

end Value

end RequestSuite
