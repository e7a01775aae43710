/-!
# Places in a YAML text

A cursor stands at a place of a text and knows its line and column.  Before anything is read, the
text is checked for characters that may not occur and its line breaks are made uniform, so a line
break is always one character.
-/

namespace RequestSuite.Yaml

/-- Why a text is not a usable document. -/
inductive Fault where
  | forbiddenChar (found : Char)
  | unexpectedChar (found : Char)
  | unexpectedEnd
  /-- What looked like a key is not followed by a colon. -/
  | missingColon
  /-- An entry, a key or a value starts where none may start. -/
  | misplacedEntry
  | tabIndentation
  | badDirective
  | badAnchor
  | badTag
  | badEscape
  | badBlockHeader
  /-- A document mark inside a quoted text. -/
  | markInQuotes
  | unexpectedToken
  | unknownAnchor (name : String)
  | severalDocuments
  | tooDeep
  | tooManyAliases
  /-- A tag that means nothing here. -/
  | unknownTag (tag : String)
  /-- A text that its tag does not fit. -/
  | badTaggedText (tag text : String)
  | numberOutOfRange (text : String)
  /-- A key that is a list or a map. -/
  | complexKey
  | notAMap
deriving DecidableEq, Repr

/-- What a fault is reported as. -/
def Fault.message : Fault → String
  | .forbiddenChar _ => "control characters are not allowed"
  | .unexpectedChar c => "found unexpected character '" ++ String.singleton c ++ "'"
  | .unexpectedEnd => "found unexpected end of stream"
  | .missingColon => "could not find expected ':'"
  | .misplacedEntry => "entries are not allowed in this context"
  | .tabIndentation => "found a tab character where indentation is expected"
  | .badDirective => "found an invalid directive"
  | .badAnchor => "found an invalid anchor"
  | .badTag => "found an invalid tag"
  | .badEscape => "found an invalid escape"
  | .badBlockHeader => "found an invalid block header"
  | .markInQuotes => "found unexpected document indicator"
  | .unexpectedToken => "did not find expected node content"
  | .unknownAnchor name => "unknown anchor '" ++ name ++ "'"
  | .severalDocuments => "more than one document is not supported"
  | .tooDeep => "recursion limit exceeded"
  | .tooManyAliases => "repetition limit exceeded"
  | .unknownTag tag => "unknown tag '" ++ tag ++ "'"
  | .badTaggedText tag text => "invalid value '" ++ text ++ "' for " ++ tag
  | .numberOutOfRange text => "integer out of range: " ++ text
  | .complexKey => "invalid type for a key, expected a string"
  | .notAMap => "invalid type, expected a map"

/-! ## Classes of characters -/

/-- The characters that may occur in a text. -/
def isAllowed (c : Char) : Bool :=
  let n := c.toNat
  n == 9 || n == 10 || n == 13 || (0x20 ≤ n && n ≤ 0x7E) || n == 0x85 ||
    (0xA0 ≤ n && n ≤ 0xFFFD) || 0x10000 ≤ n

/-- The character that marks the byte order of a text. -/
def byteOrderMark : Char := '\ufeff'

/-- Blanks within a line. -/
def isBlank (c : Char) : Bool :=
  c == ' ' || c == '\t'

/-- Line breaks of a uniform text. -/
def isBreak (c : Char) : Bool :=
  c == '\n' || c == '\u2028' || c == '\u2029'

/-- Blanks and line breaks. -/
def isSpace (c : Char) : Bool :=
  isBlank c || isBreak c

/-- The characters of names of anchors, directives and tag handles. -/
def isNameChar (c : Char) : Bool :=
  c.isAlphanum || c == '_' || c == '-'

/-- The characters that separate the entries of bracketed collections. -/
def isFlowIndicator (c : Char) : Bool :=
  c == ',' || c == '[' || c == ']' || c == '\x7b' || c == '\x7d'

/-- The characters with which a plain scalar cannot start, or only in some places. -/
def isIndicator (c : Char) : Bool :=
  "-?:,[]\x7b\x7d#&*!|>'\"%@\x60".toList.contains c

/-- A text in which all line breaks but the two Unicode separators are line feeds. -/
def uniformBreaks : List Char → List Char
  | '\r' :: '\n' :: rest => '\n' :: uniformBreaks rest
  | '\r' :: rest => '\n' :: uniformBreaks rest
  | '\u0085' :: rest => '\n' :: uniformBreaks rest
  | c :: rest => c :: uniformBreaks rest
  | [] => []

/-! ## Cursors -/

/-- A place in a text. -/
structure Cursor where
  /-- What is still to be read. -/
  rest : List Char
  line : Nat := 0
  column : Nat := 0
  /-- The number of characters before this place. -/
  index : Nat := 0
deriving Repr

namespace Cursor

/-- The start of a text. -/
def ofText (text : String) : Except Fault Cursor :=
  match text.toList.find? fun c => !isAllowed c with
  | some c => .error (.forbiddenChar c)
  | none =>
    match uniformBreaks text.toList with
    | c :: rest => .ok ⟨if c = byteOrderMark then rest else c :: rest, 0, 0, 0⟩
    | [] => .ok ⟨[], 0, 0, 0⟩

/-- The character at a distance from the cursor. -/
def at? (c : Cursor) (distance : Nat) : Option Char :=
  c.rest[distance]?

/-- Whether the character at a distance is a given one. -/
def sees (c : Cursor) (ch : Char) (distance : Nat) : Bool :=
  c.at? distance == some ch

/-- Whether there is a blank, a line break or the end of the text at a distance. -/
def seesGap (c : Cursor) (distance : Nat) : Bool :=
  (c.at? distance).all isSpace

/-- The cursor behind one character. -/
def skip (c : Cursor) : Cursor :=
  match c.rest with
  | [] => c
  | ch :: rest =>
    if isBreak ch then ⟨rest, c.line + 1, 0, c.index + 1⟩
    else ⟨rest, c.line, c.column + 1, c.index + 1⟩

/-- The cursor behind several characters. -/
def skipMany : Nat → Cursor → Cursor
  | 0, c => c
  | n + 1, c => skipMany n c.skip

/-- The longest run of characters of a class, which holds no line break, and the cursor behind
it. -/
def span (p : Char → Bool) (c : Cursor) : List Char × Cursor :=
  let run := c.rest.takeWhile p
  (run, ⟨c.rest.drop run.length, c.line, c.column + run.length, c.index + run.length⟩)

/-- The cursor behind a run of characters of a class. -/
def skipWhile (p : Char → Bool) (c : Cursor) : Cursor :=
  (c.span p).2

/-- The cursor at the end of its line. -/
def toLineEnd (c : Cursor) : Cursor :=
  c.skipWhile fun ch => !isBreak ch

/-- Whether a document mark, three points or hyphens at the start of a line, stands here. -/
def seesMark (c : Cursor) : Bool :=
  c.column == 0 && c.seesGap 3 &&
    (c.rest.take 3 == ['-', '-', '-'] || c.rest.take 3 == ['.', '.', '.'])

end Cursor

end RequestSuite.Yaml
