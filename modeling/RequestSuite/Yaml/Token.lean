import RequestSuite.Yaml.Scalar

/-!
# Tokens of YAML texts

The tokens say what a text consists of, with the beginnings and ends of blocks, which the text
shows by its indentation alone, made explicit.  A key without a mark of its own is only known to be
a key once its colon is found, so its place is kept until then and the token is put in there.
-/

namespace RequestSuite.Yaml

/-- A token of a YAML text. -/
inductive Token where
  | versionDirective (major minor : Nat)
  | tagDirective (handle start : String)
  | documentStart
  | documentEnd
  | blockSequenceStart
  | blockMappingStart
  | blockEnd
  | flowSequenceStart
  | flowSequenceEnd
  | flowMappingStart
  | flowMappingEnd
  | blockEntry
  | flowEntry
  | key
  | value
  | alias (name : String)
  | anchor (name : String)
  /-- A tag's handle and the rest of it. -/
  | tag (handle suffix : String)
  | scalar (text : String) (plain : Bool)
deriving DecidableEq, Repr

/-- A place at which a key without a mark may have started. -/
structure KeyPlace where
  /-- Whether nothing but a key can stand there. -/
  required : Bool
  /-- The number of tokens before it. -/
  position : Nat
  line : Nat
  column : Nat
  index : Nat

/-- How far the tokens have been read. -/
structure Lexer where
  cursor : Cursor
  /-- The tokens so far, last one first. -/
  tokens : List Token := []
  /-- How many tokens there are. -/
  count : Nat := 0
  /-- The column of the innermost block; none is open at `-1`. -/
  indent : Int := -1
  /-- The columns of the blocks around it. -/
  outerIndents : List Int := []
  /-- Whether a key without a mark may start here. -/
  keyAllowed : Bool := true
  /-- The place at which a key may have started, in the innermost bracketed collection. -/
  keyPlace : Option KeyPlace := none
  /-- The same for the collections around it. -/
  outerKeyPlaces : List (Option KeyPlace) := []

/-- A step of reading tokens. -/
abbrev Lex := StateT Lexer (Except Fault)

namespace Lexer

/-- Whether the cursor is inside brackets. -/
def inFlow (s : Lexer) : Bool :=
  !s.outerKeyPlaces.isEmpty

/-- The lexer with a token more at its end. -/
def push (t : Token) (s : Lexer) : Lexer :=
  { s with tokens := t :: s.tokens, count := s.count + 1 }

/-- The lexer with a token put in after the first `position` ones. -/
def insertAt (position : Nat) (t : Token) (s : Lexer) : Lexer :=
  let later := s.count - position
  { s with tokens := s.tokens.take later ++ t :: s.tokens.drop later, count := s.count + 1 }

/-- Whether the place of a possible key is too far away to be one: keys stay on one line and are
not longer than 1024 characters. -/
def isStale (s : Lexer) (place : KeyPlace) : Bool :=
  place.line < s.cursor.line || place.index + 1024 < s.cursor.index

end Lexer

namespace Lex

/-! ## Keys and indentation -/

/-- Gives up the place of a possible key. -/
def dropKeyPlace : Lex Unit := do
  if (← get).keyPlace.any (·.required) then throw .missingColon
  modify fun s => { s with keyPlace := none }

/-- Remembers the current place if a key may start here. -/
def saveKeyPlace : Lex Unit := do
  let s ← get
  if s.keyAllowed then
    dropKeyPlace
    let c := s.cursor
    let required := !s.inFlow && s.indent == c.column
    modify fun s => { s with keyPlace := some ⟨required, s.count, c.line, c.column, c.index⟩ }

/-- Gives up all places of possible keys that are too far away. -/
def dropStaleKeyPlaces : Lex Unit := do
  let s ← get
  let stale (place : Option KeyPlace) : Bool := place.any s.isStale
  if (s.keyPlace :: s.outerKeyPlaces).any fun p => stale p && p.any (·.required) then
    throw .missingColon
  let keep (place : Option KeyPlace) : Option KeyPlace := if stale place then none else place
  set { s with keyPlace := keep s.keyPlace, outerKeyPlaces := s.outerKeyPlaces.map keep }

/-- Opens a block at a column if it lies further right than the innermost one; the token goes
after the first `position` ones. -/
def openBlock (column position : Nat) (t : Token) : Lex Unit :=
  modify fun s =>
    if !s.inFlow && s.indent < (column : Int) then
      { s.insertAt position t with
        indent := column, outerIndents := s.indent :: s.outerIndents }
    else s

/-- Closes the blocks that lie further right than a column. -/
def closeBlocks (column : Int) : Lex Unit :=
  modify fun s =>
    if s.inFlow then s
    else
      let inner := (s.indent :: s.outerIndents).takeWhile fun i => column < i
      let outer := (s.indent :: s.outerIndents).dropWhile fun i => column < i
      match outer with
      | indent :: outerIndents =>
        { inner.foldl (fun s _ => s.push .blockEnd) s with
          indent := indent, outerIndents := outerIndents }
      | [] => s

/-- Goes on behind `n` characters with a token for them. -/
def emit (n : Nat) (t : Token) : Lex Unit :=
  modify fun s => { s.push t with cursor := s.cursor.skipMany n }

/-- Sets whether a key may start here. -/
def allowKey (allowed : Bool) : Lex Unit :=
  modify fun s => { s with keyAllowed := allowed }

/-! ## Between the tokens -/

/-- Skips blanks, comments and line breaks.  Tabs do not count as blanks where a key may start. -/
def skipGaps : Nat → Lex Unit
  | 0 => pure ()
  | n + 1 => do
    let s ← get
    let c := s.cursor
    let c := if c.column == 0 && c.sees byteOrderMark 0 then c.skip else c
    let c := c.skipWhile fun ch => ch == ' ' || (ch == '\t' && (s.inFlow || !s.keyAllowed))
    let c := if c.sees '#' 0 then c.toLineEnd else c
    if (c.at? 0).any isBreak then
      set { s with cursor := c.skip, keyAllowed := s.keyAllowed || !s.inFlow }
      skipGaps n
    else
      set { s with cursor := c }

/-! ## Directives, anchors and tags -/

/-- A number of a version, of at most nine digits. -/
def versionNumber (c : Cursor) : Except Fault (Nat × Cursor) :=
  let (digits, c) := c.span Char.isDigit
  if digits.isEmpty ∨ 9 < digits.length then .error .badDirective
  else .ok (digits.foldl (fun n d => n * 10 + (d.toNat - '0'.toNat)) 0, c)

/-- The handle of a tag: an exclamation mark, or a name between two of them. -/
def tagHandle (inDirective : Bool) (c : Cursor) : Except Fault (String × Cursor) := do
  unless c.sees '!' 0 do throw .badTag
  let (name, c) := c.skip.span isNameChar
  if c.sees '!' 0 then return (String.ofList ('!' :: name ++ ['!']), c.skip)
  else if inDirective && !name.isEmpty then throw .badTag
  else return (String.ofList ('!' :: name), c)

/-- The characters of a tag's address. -/
def isTagChar (verbatim : Bool) (c : Char) : Bool :=
  isNameChar c || ";/?:@&=+$.%!~*'()".toList.contains c ||
    (verbatim && (c == ',' || c == '[' || c == ']'))

/-- Whether every percent sign has two hexadecimal digits after it. -/
def escapesComplete : List Char → Bool
  | '%' :: a :: b :: rest =>
    (Text.hexDigitValue? a).isSome && (Text.hexDigitValue? b).isSome && escapesComplete rest
  | c :: rest => c != '%' && escapesComplete rest
  | [] => true

/-- An address of a tag with its escaped bytes decoded, and the cursor behind it. -/
def tagAddress (verbatim : Bool) (c : Cursor) : Except Fault (String × Cursor) :=
  let (chars, c) := c.span (isTagChar verbatim)
  match String.fromUTF8? ⟨(Text.percentDecode chars).toArray⟩ with
  | some text => if escapesComplete chars then .ok (text, c) else .error .badTag
  | none => .error .badTag

/-- A directive, whose percent sign stands at the cursor, and the cursor behind its line. -/
def directive (c : Cursor) : Except Fault (Token × Cursor) := do
  let (name, c) := c.skip.span isNameChar
  if name.isEmpty ∨ !c.seesGap 0 then throw .badDirective
  let c := c.skipWhile isBlank
  let (token, c) ←
    if name = "YAML".toList then do
      let (major, c) ← versionNumber c
      unless c.sees '.' 0 do throw .badDirective
      let (minor, c) ← versionNumber c.skip
      pure (Token.versionDirective major minor, c)
    else if name = "TAG".toList then do
      let (handle, c) ← tagHandle true c
      unless (c.at? 0).any isBlank do throw .badDirective
      let (start, c) ← tagAddress true (c.skipWhile isBlank)
      if start.isEmpty ∨ !c.seesGap 0 then throw .badDirective
      pure (Token.tagDirective handle start, c)
    else throw .badDirective
  let c := c.skipWhile isBlank
  let c := if c.sees '#' 0 then c.toLineEnd else c
  match c.at? 0 with
  | none => return (token, c)
  | some ch => if isBreak ch then return (token, c.skip) else throw .badDirective

/-- The name of an anchor or an alias, whose mark stands at the cursor. -/
def anchorName (c : Cursor) : Except Fault (String × Cursor) :=
  let (name, c) := c.skip.span isNameChar
  if name.isEmpty ∨ !(c.seesGap 0 ∨ (c.at? 0).any "?:,]\x7d%@\x60".toList.contains) then
    .error .badAnchor
  else .ok (String.ofList name, c)

/-- A tag, whose exclamation mark stands at the cursor. -/
def tagToken (inFlow : Bool) (c : Cursor) : Except Fault (Token × Cursor) := do
  let (token, c) ←
    if c.sees '<' 1 then do
      let (address, c) ← tagAddress true (c.skipMany 2)
      if address.isEmpty ∨ !c.sees '>' 0 then throw .badTag
      pure (Token.tag "" address, c.skip)
    else do
      let (handle, after) ← tagHandle false c
      if 1 < handle.length ∧ handle.toList.getLast? = some '!' then
        let (suffix, c) ← tagAddress false after
        if suffix.isEmpty then throw .badTag
        pure (Token.tag handle suffix, c)
      else
        let (suffix, c) ← tagAddress false c.skip
        pure (if suffix.isEmpty then Token.tag "" "!" else Token.tag "!" suffix, c)
  if c.seesGap 0 ∨ (inFlow ∧ c.sees ',' 0) then return (token, c) else throw .badTag

/-! ## The tokens -/

/-- Reads a token with a function of the cursor. -/
def emitWith (read : Cursor → Except Fault (Token × Cursor)) : Lex Unit := do
  let (t, c) ← read (← get).cursor
  modify fun s => { s.push t with cursor := c }

/-- A mark of a directive or a document, which closes all blocks. -/
def closeAll : Lex Unit := do
  closeBlocks (-1)
  dropKeyPlace
  allowKey false

/-- An opening bracket. -/
def openFlow (t : Token) : Lex Unit := do
  saveKeyPlace
  modify fun s => { s with keyPlace := none, outerKeyPlaces := s.keyPlace :: s.outerKeyPlaces }
  allowKey true
  emit 1 t

/-- A closing bracket. -/
def closeFlow (t : Token) : Lex Unit := do
  dropKeyPlace
  modify fun s =>
    match s.outerKeyPlaces with
    | place :: places => { s with keyPlace := place, outerKeyPlaces := places }
    | [] => s
  allowKey false
  emit 1 t

/-- The mark of an entry or a key opens a block where one may start. -/
def markBlock (t : Token) : Lex Unit := do
  let s ← get
  unless s.inFlow do
    unless s.keyAllowed do throw .misplacedEntry
    openBlock s.cursor.column s.count t

/-- A colon makes a key of what stands at the place kept for one. -/
def valueMark : Lex Unit := do
  match (← get).keyPlace with
  | some place =>
    modify (Lexer.insertAt place.position .key)
    openBlock place.column place.position .blockMappingStart
    modify fun s => { s with keyPlace := none }
    allowKey false
  | none =>
    markBlock .blockMappingStart
    allowKey !(← get).inFlow
  emit 1 .value

/-- Whether a plain scalar starts at the cursor. -/
def startsPlain (s : Lexer) (ch : Char) : Bool :=
  !(isSpace ch || isIndicator ch) ||
    (ch == '-' && !(s.cursor.at? 1).any isBlank) ||
    (!s.inFlow && (ch == '?' || ch == ':') && !s.cursor.seesGap 1)

/-- The token that starts with a character. -/
def token (s : Lexer) (ch : Char) : Lex Unit := do
  let c := s.cursor
  let marked := s.inFlow || c.seesGap 1
  if c.column == 0 && ch == '%' then
    closeAll
    emitWith directive
  else if c.seesMark then
    closeAll
    emit 3 (if ch == '-' then .documentStart else .documentEnd)
  else if ch == '[' then openFlow .flowSequenceStart
  else if ch == '\x7b' then openFlow .flowMappingStart
  else if ch == ']' then closeFlow .flowSequenceEnd
  else if ch == '\x7d' then closeFlow .flowMappingEnd
  else if ch == ',' then
    dropKeyPlace
    allowKey true
    emit 1 .flowEntry
  else if ch == '-' && c.seesGap 1 then
    markBlock .blockSequenceStart
    dropKeyPlace
    allowKey true
    emit 1 .blockEntry
  else if ch == '?' && marked then
    markBlock .blockMappingStart
    dropKeyPlace
    allowKey !s.inFlow
    emit 1 .key
  else if ch == ':' && marked then valueMark
  else if ch == '|' && !s.inFlow || ch == '>' && !s.inFlow then
    dropKeyPlace
    allowKey true
    emitWith fun c => (blockScalar s.indent c).map fun (text, c) => (.scalar text false, c)
  else
    if "*&!'\"".toList.contains ch || startsPlain s ch then
      saveKeyPlace
      allowKey false
    if ch == '*' then emitWith fun c => (anchorName c).map fun (name, c) => (.alias name, c)
    else if ch == '&' then emitWith fun c => (anchorName c).map fun (name, c) => (.anchor name, c)
    else if ch == '!' then emitWith (tagToken s.inFlow)
    else if ch == '\'' || ch == '"' then
      emitWith fun c => (quotedScalar c).map fun (text, c) => (.scalar text false, c)
    else if startsPlain s ch then
      let (text, c, broken) ← plainScalar s.inFlow s.indent c
      modify fun s => { s.push (.scalar text true) with
        cursor := c, keyAllowed := s.keyAllowed || broken }
    else throw (.unexpectedChar ch)

/-- All tokens up to the end of the text. -/
def all : Nat → Lex Unit
  | 0 => pure ()
  | n + 1 => do
    skipGaps ((← get).cursor.rest.length + 1)
    dropStaleKeyPlaces
    let s ← get
    closeBlocks s.cursor.column
    match s.cursor.at? 0 with
    | some ch =>
      token (← get) ch
      all n
    | none =>
      closeBlocks (-1)
      dropKeyPlace

end Lex

/-- The tokens of a text. -/
def Token.ofText (text : String) : Except Fault (List Token) := do
  let c ← Cursor.ofText text
  let (_, s) ← (Lex.all (c.rest.length + 1)).run { cursor := c }
  return s.tokens.reverse

end RequestSuite.Yaml
