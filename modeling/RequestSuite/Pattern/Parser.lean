import RequestSuite.Pattern.Size
import RequestSuite.Text.Blank

/-!
# The notation of patterns

Patterns are written in the usual notation of regular expressions, with classes of Unicode
characters, set operations between brackets and flags that may change inside a pattern.  Looking
around and references back to groups are not part of the notation, so every pattern can be matched
in one pass.  The reader is a state machine over the rest of the text and the current flags, and
each of its steps takes at least one character.  It counts how deep a pattern is nested; patterns
that are nested too deep or are too large are refused.
-/

namespace RequestSuite

namespace Pattern

/-- Why a text is not a pattern. -/
inductive Fault where
  | unexpectedEnd
  | unexpected (found : Char)
  | nothingToRepeat
  | badRepetition
  | badEscape
  | badClass
  | badGroup
  | badFlags
  | unknownProperty
  | lookAround
  | backReference
  | notUtf8
  | tooDeep
  | tooLarge
deriving DecidableEq, Repr

/-- What a fault is reported as. -/
def Fault.message : Fault → String
  | .unexpectedEnd => "unexpected end of the pattern"
  | .unexpected c => "unexpected character '" ++ String.singleton c ++ "'"
  | .nothingToRepeat => "repetition operator missing expression"
  | .badRepetition => "invalid repetition count"
  | .badEscape => "unrecognized escape sequence"
  | .badClass => "invalid character class"
  | .badGroup => "invalid group"
  | .badFlags => "invalid flags"
  | .unknownProperty => "Unicode property not found"
  | .lookAround => "look-around is not supported"
  | .backReference => "backreferences are not supported"
  | .notUtf8 => "pattern can match invalid UTF-8"
  | .tooDeep => "exceeded the maximum number of nested patterns"
  | .tooLarge => "compiled pattern exceeds the size limit"

/-- The flags in force at a place of a pattern. -/
structure Flags where
  /-- Letters match in either case. -/
  ignoreCase : Bool := false
  /-- Line anchors match at every line. -/
  multiLine : Bool := false
  /-- The point matches line ends, too. -/
  dotAll : Bool := false
  /-- Blanks and comments in the pattern do not count. -/
  verbose : Bool := false
  /-- Carriage returns end lines as well. -/
  crlf : Bool := false
  /-- Classes hold the characters of all scripts. -/
  unicode : Bool := true
deriving DecidableEq, Repr

/-- Where the reader stands. -/
structure Cursor where
  /-- What is still to be read. -/
  rest : List Char
  /-- The flags in force. -/
  flags : Flags
  /-- The names of the groups so far. -/
  groups : List (List Char) := []

/-- A step of the reader. -/
abbrev Reader := StateT Cursor (Except Fault)

namespace Reader

/-- The next character, without taking it. -/
def peek? : Reader (Option Char) := do
  return (← get).rest.head?

/-- Takes characters off the rest. -/
def skip (n : Nat) : Reader Unit :=
  modify fun s => { s with rest := s.rest.drop n }

/-- Takes the next character. -/
def next : Reader Char := do
  match (← get).rest with
  | [] => throw .unexpectedEnd
  | c :: rest =>
    modify fun s => { s with rest := rest }
    return c

/-- The rest without the blanks and comments at its start. -/
def withoutComments : Nat → List Char → List Char
  | 0, s => s
  | n + 1, s =>
    match s.dropWhile Text.isBlank with
    | '#' :: rest => withoutComments n ((rest.dropWhile (· != '\n')).drop 1)
    | s => s

/-- Takes blanks and comments if they do not count. -/
def skipBlanks : Reader Unit := do
  let s ← get
  if s.flags.verbose then
    set { s with rest := withoutComments (s.rest.length + 1) s.rest }

/-- Takes a word if it comes next. -/
def takeIf (word : List Char) : Reader Bool := do
  if word.isPrefixOf (← get).rest then
    skip word.length
    return true
  else
    return false

end Reader

open Reader

/-! ## Escapes -/

/-- The characters with a meaning of their own somewhere in the notation. -/
def isMeta (c : Char) : Bool :=
  "\\.+*?()|[]\x7b\x7d^$#&-~".toList.contains c

/-- What an escape or a plain character stands for. -/
inductive Atom where
  /-- A character; `byte` tells that it was written as a byte of two hexadecimal digits. -/
  | char (c : Char) (byte : Bool)
  | set (s : Charset)
  | anchor (a : Anchor)

/-- The value of a hexadecimal digit. -/
def hexDigit? (c : Char) : Option Nat :=
  if c.isDigit then some (c.toNat - 48)
  else if 'a' ≤ c ∧ c ≤ 'f' then some (c.toNat - 87)
  else if 'A' ≤ c ∧ c ≤ 'F' then some (c.toNat - 55)
  else none

/-- The character of a hexadecimal numeral. -/
def charOfHex (digits : List Char) : Except Fault Char := do
  let n ← digits.foldlM (fun n c =>
    match hexDigit? c with
    | some d => if n < 0x110000 then .ok (n * 16 + d) else .error .badEscape
    | none => .error .badEscape) 0
  if digits.isEmpty then throw .badEscape
  if n < 0xD800 ∨ (0xE000 ≤ n ∧ n < 0x110000) then return Char.ofNat n else throw .badEscape

/-- The character of an escape with a hexadecimal numeral of `size` digits or in braces. -/
def hexEscape (size : Nat) : Reader Atom := do
  skipBlanks
  let s ← get
  match s.rest with
  | '\x7b' :: inner =>
    match inner.dropWhile (· != '\x7d') with
    | [] => throw .unexpectedEnd
    | _ :: rest =>
      let digits := inner.takeWhile (· != '\x7d')
      let digits := if s.flags.verbose then digits.filter (!Text.isBlank ·) else digits
      let c ← charOfHex digits
      set { s with rest := rest }
      return .char c false
  | rest =>
    if rest.length < size then throw .unexpectedEnd
    let c ← charOfHex (rest.take size)
    set { s with rest := rest.drop size }
    return .char c (size == 2)

/-- The set of a Unicode class, negated if its letter is a capital. -/
def classEscape (negated : Bool) : Reader Atom := do
  let s ← get
  let lookup (found : Option Charset) (negated : Bool) : Reader Atom := do
    if !s.flags.unicode then throw .unknownProperty
    match found with
    | none => throw .unknownProperty
    | some set =>
      let set := if s.flags.ignoreCase then .folded set else set
      return .set (Charset.negateIf negated set)
  match s.rest with
  | [] => throw .unexpectedEnd
  | '\x7b' :: inner =>
    match inner.dropWhile (· != '\x7d') with
    | [] => throw .unexpectedEnd
    | _ :: rest =>
      set { s with rest := rest }
      let name := inner.takeWhile (· != '\x7d')
      let before (c : Char) := name.takeWhile (· != c)
      let after (c : Char) := (name.dropWhile (· != c)).drop 1
      if name.contains '=' ∧ (before '=').getLast? = some '!' then
        lookup (Charset.ofNameAndValue? (before '=').dropLast (after '=')) (!negated)
      else if name.contains ':' then
        lookup (Charset.ofNameAndValue? (before ':') (after ':')) negated
      else if name.contains '=' then
        lookup (Charset.ofNameAndValue? (before '=') (after '=')) negated
      else
        lookup (Charset.ofName? name) negated
  | c :: rest =>
    if c = '\\' then throw .badClass
    set { s with rest := rest }
    lookup (Charset.ofName? [c]) negated

/-- The condition of a word boundary, which may be named in braces. -/
def wordBoundary : Reader Atom := do
  let s ← get
  let u := s.flags.unicode
  match s.rest with
  | '\x7b' :: inner =>
    let isNameChar (c : Char) := c.isAlpha || c == '-'
    if inner.head?.any isNameChar then
      match inner.dropWhile isNameChar with
      | '\x7d' :: rest =>
        set { s with rest := rest }
        match String.ofList (inner.takeWhile isNameChar) with
        | "start" => return .anchor (.wordStart u)
        | "end" => return .anchor (.wordEnd u)
        | "start-half" => return .anchor (.wordStartHalf u)
        | "end-half" => return .anchor (.wordEndHalf u)
        | _ => throw .badEscape
      | _ => throw .badEscape
    else
      return .anchor (.wordBoundary u)
  | _ => return .anchor (.wordBoundary u)

/-- A class of one letter; without Unicode, its negation would hold parts of characters. -/
def letterClass (s : Bool → Charset) (negated : Bool) : Reader Atom := do
  let u := (← get).flags.unicode
  if negated ∧ !u then throw .notUtf8
  return .set (Charset.negateIf negated (s u))

/-- What the escape after a backslash stands for. -/
def escape : Reader Atom := do
  let c ← next
  let flags := (← get).flags
  if c.isDigit then throw .backReference
  match c with
  | 'x' => hexEscape 2
  | 'u' => hexEscape 4
  | 'U' => hexEscape 8
  | 'p' => classEscape false
  | 'P' => classEscape true
  | 'd' => letterClass Charset.digit false
  | 'D' => letterClass Charset.digit true
  | 's' => letterClass Charset.space false
  | 'S' => letterClass Charset.space true
  | 'w' => letterClass Charset.word false
  | 'W' => letterClass Charset.word true
  | 'a' => return .char '\x07' false
  | 'f' => return .char '\x0c' false
  | 't' => return .char '\t' false
  | 'n' => return .char '\n' false
  | 'r' => return .char '\r' false
  | 'v' => return .char '\x0b' false
  | 'A' => return .anchor .textStart
  | 'z' => return .anchor .textEnd
  | 'b' => wordBoundary
  | 'B' => return .anchor (.notWordBoundary flags.unicode)
  | '<' => return .anchor (.wordStart flags.unicode)
  | '>' => return .anchor (.wordEnd flags.unicode)
  | c =>
    if isMeta c ∨ (c.toNat < 128 ∧ !c.isAlphanum) then return .char c false
    else throw .badEscape

/-- A set closed under case folding if letter case does not count. -/
def foldIf (flags : Flags) (s : Charset) : Charset :=
  if !flags.ignoreCase then s
  else if flags.unicode then .folded s
  else .foldedAscii s

/-- The set of a character. -/
def charSet (flags : Flags) (c : Char) (byte : Bool) : Except Fault Charset :=
  if byte ∧ !flags.unicode ∧ 127 < c.toNat then .error .notUtf8
  else .ok (foldIf flags (.single c))

/-! ## Levels -/

/-- Something that was read, and how many levels there are in it. -/
structure Leveled (α : Type) where
  value : α
  depth : Nat := 0

/-- The levels of things that stand together; more than one of them make a level of their own. -/
def depthTogether : List Nat → Nat
  | [] => 0
  | [depth] => depth
  | depths => depths.foldl max 0 + 1

/-! ## Classes in brackets -/

/-- The three operations between the sets of a class. -/
inductive SetOp where
  | intersection
  | difference
  | symmetricDifference

/-- The set that an operation makes of two sets. -/
def SetOp.apply : SetOp → Charset → Charset → Charset
  | .intersection, a, b => .inter a b
  | .difference, a, b => Charset.minus a b
  | .symmetricDifference, a, b => .union (Charset.minus a b) (Charset.minus b a)

/-- A class that is open: the operation that waits for its right-hand side, and the sets since. -/
structure OpenClass where
  negated : Bool
  left : Option (Leveled Charset × SetOp) := none
  items : List (Leveled Charset) := []

/-- The set of what has been read of a class so far. -/
def OpenClass.toSet (flags : Flags) (k : OpenClass) : Leveled Charset :=
  let right : Leveled Charset :=
    ⟨Charset.unionAll (k.items.reverse.map (·.value)), depthTogether (k.items.map (·.depth))⟩
  match k.left with
  | none => right
  | some (left, op) =>
    ⟨op.apply (foldIf flags left.value) (foldIf flags right.value),
      max left.depth right.depth + 1⟩

/-- The class with another item. -/
def OpenClass.add (k : OpenClass) (item : Leveled Charset) : OpenClass :=
  { k with items := item :: k.items }

/-- The class with an operation behind what has been read. -/
def OpenClass.operate (flags : Flags) (op : SetOp) (k : OpenClass) : OpenClass :=
  { k with left := some (k.toSet flags, op), items := [] }

/-- The set of a class of ASCII characters such as `[:alpha:]`, if one comes next. -/
def asciiClass? (flags : Flags) (s : List Char) : Option (Charset × List Char) :=
  match s with
  | '[' :: ':' :: rest =>
    let negated := rest.head? == some '^'
    let rest := if negated then rest.drop 1 else rest
    match rest.dropWhile (· != ':') with
    | ':' :: ']' :: after =>
      (Charset.asciiClass? (String.ofList (rest.takeWhile (· != ':')))).map fun set =>
        (Charset.negateIf negated (foldIf flags set), after)
    | _ => none
  | _ => none

/-- One end of a range, or an item of its own. -/
def classItem : Reader Atom := do
  let c ← next
  if c = '\\' then escape else return .char c false

/-- The set of an item that is no range. -/
def Atom.toSet (flags : Flags) : Atom → Except Fault Charset
  | .char c byte =>
    if !flags.unicode ∧ 127 < c.toNat then .error (if byte then .notUtf8 else .badClass)
    else .ok (.single c)
  | .set s => .ok s
  | .anchor _ => .error .badClass

/-- The next character that counts, and the one after it that counts. -/
def peekPair : Reader (Option Char × Option Char) := do
  let s ← get
  let tail := s.rest.drop 1
  let tail := if s.flags.verbose then withoutComments (tail.length + 1) tail else tail
  return (s.rest.head?, tail.head?)

/-- An item of a class: a character, an escape or a range. -/
def classRange : Reader Charset := do
  let first ← classItem
  skipBlanks
  let flags := (← get).flags
  let (a, b) ← peekPair
  if a.isNone then throw .unexpectedEnd
  if a != some '-' || b == some ']' || b == some '-' then
    return ← first.toSet flags
  skip 1
  skipBlanks
  let second ← classItem
  match first, second with
  | .char low _, .char high _ =>
    if high < low then throw .badClass
    if !flags.unicode ∧ 127 < high.toNat then throw .badClass
    return .range low.toNat high.toNat
  | _, _ => throw .badClass

/-- The start of a class after its opening bracket: a negation, and hyphens or a closing bracket
that stand for themselves. -/
def classStart : Reader OpenClass := do
  skipBlanks
  let negated ← takeIf ['^']
  skipBlanks
  let s ← get
  let countHyphens (s : List Char) := (s.takeWhile (· == '-')).length
  let hyphens := countHyphens s.rest
  skip hyphens
  skipBlanks
  let items : List (Leveled Charset) := List.replicate hyphens { value := .single '-' }
  if hyphens = 0 ∧ (← peek?) = some ']' then
    skip 1
    skipBlanks
    return { negated, items := [{ value := .single ']' }] }
  return { negated, items }

/-- The set of a class whose opening brackets have been read; `outer` holds the classes around the
innermost one. -/
def classBody : Nat → OpenClass → List OpenClass → Reader (Leveled Charset)
  | 0, _, _ => throw .unexpectedEnd
  | n + 1, k, outer => do
    skipBlanks
    let s ← get
    match s.rest with
    | [] => throw .unexpectedEnd
    | '[' :: rest =>
      match asciiClass? s.flags s.rest with
      | some (set, rest) =>
        MonadStateOf.set { s with rest := rest }
        classBody n (k.add { value := set }) outer
      | none =>
        MonadStateOf.set { s with rest := rest }
        let inner ← classStart
        classBody n inner (k :: outer)
    | ']' :: rest =>
      MonadStateOf.set { s with rest := rest }
      let inside := k.toSet s.flags
      let set := Charset.negateIf k.negated (foldIf s.flags inside.value)
      match outer with
      | [] =>
        if k.negated ∧ !s.flags.unicode then throw .notUtf8
        return ⟨set, inside.depth + 1⟩
      | k' :: outer => classBody n (k'.add ⟨set, inside.depth + 1⟩) outer
    | '&' :: '&' :: rest =>
      MonadStateOf.set { s with rest := rest }
      classBody n (k.operate s.flags .intersection) outer
    | '-' :: '-' :: rest =>
      MonadStateOf.set { s with rest := rest }
      classBody n (k.operate s.flags .difference) outer
    | '~' :: '~' :: rest =>
      MonadStateOf.set { s with rest := rest }
      classBody n (k.operate s.flags .symmetricDifference) outer
    | _ =>
      let item ← classRange
      classBody n (k.add { value := item }) outer

/-! ## Repetitions -/

/-- A decimal numeral of 32 bits with blanks around it. -/
def count : Reader (Option Nat) := do
  let s ← get
  let rest := s.rest.dropWhile Text.isBlank
  let digits := rest.takeWhile Char.isDigit
  set { s with rest := (rest.dropWhile Char.isDigit).dropWhile Text.isBlank }
  if digits.isEmpty then return none
  let n := digits.foldl (fun n c => n * 10 + (c.toNat - 48)) 0
  if n < 0x100000000 then return some n else throw .badRepetition

/-- The bounds of a repetition after its opening brace. -/
def bounds : Reader (Nat × Option Nat) := do
  let some low ← count | throw .badRepetition
  skipBlanks
  if ← takeIf ['\x7d'] then return (low, some low)
  unless ← takeIf [','] do throw .badRepetition
  skipBlanks
  if ← takeIf ['\x7d'] then return (low, none)
  let some high ← count | throw .badRepetition
  skipBlanks
  unless ← takeIf ['\x7d'] do throw .badRepetition
  if high < low then throw .badRepetition
  return (low, some high)

/-! ## Groups -/

/-- The flags that a letter switches. -/
def setFlag (flags : Flags) (letter : Char) (on : Bool) : Option Flags :=
  match letter with
  | 'i' => some { flags with ignoreCase := on }
  | 'm' => some { flags with multiLine := on }
  | 's' => some { flags with dotAll := on }
  | 'x' => some { flags with verbose := on }
  | 'R' => some { flags with crlf := on }
  | 'u' => some { flags with unicode := on }
  | 'U' => some flags
  | _ => none

/-- The flags of a group, up to and including the colon or parenthesis that ends them. -/
def groupFlags : Nat → Flags → List Char → Bool → Bool → Reader (Flags × Bool)
  | 0, _, _, _, _ => throw .unexpectedEnd
  | n + 1, flags, seen, on, dangling => do
    let c ← next
    if c = ':' ∨ c = ')' then
      if dangling then throw .badFlags
      if c = ')' ∧ seen.isEmpty then throw .nothingToRepeat
      return (flags, c == ')')
    else if c = '-' then
      if !on then throw .badFlags
      groupFlags n flags seen false true
    else
      match setFlag flags c on with
      | none => throw .badFlags
      | some flags =>
        if seen.contains c then throw .badFlags
        groupFlags n flags (c :: seen) on false

/-- The letters of all scripts, which group names may hold. -/
def isGroupLetter (c : Char) : Bool :=
  if c.toNat < 128 then c.isAlpha else (Charset.named Unicode.traitNamed? "Alphabetic").contains c

/-- Takes the name of a group and the bracket that closes it. -/
def groupName : Reader Unit := do
  let s ← get
  let name := s.rest.takeWhile (· != '>')
  let isFirst (c : Char) := c == '_' || isGroupLetter c
  let isLater (c : Char) :=
    isFirst c || c.isDigit || c == '.' || c == '[' || c == ']' ||
      (127 < c.toNat && (Charset.named Unicode.categoryNamed? "N").contains c)
  match s.rest.dropWhile (· != '>'), name with
  | _ :: rest, first :: later =>
    if !isFirst first ∨ !later.all isLater ∨ s.groups.contains name then throw .badGroup
    set { s with rest := rest, groups := name :: s.groups }
  | _, _ => throw .badGroup

/-! ## Patterns -/

/-- The pattern of a list of patterns one after the other. -/
def seqAll : List Pattern → Pattern
  | [] => .empty
  | [p] => p
  | p :: rest => .seq p (seqAll rest)

/-- The pattern of a list of alternatives. -/
def altAll : List Pattern → Pattern
  | [] => .empty
  | [p] => p
  | p :: rest => .alt p (altAll rest)

/-- The set of the point. -/
def pointSet (flags : Flags) : Except Fault Charset :=
  if !flags.unicode then .error .notUtf8
  else if flags.dotAll then .ok Charset.all
  else if flags.crlf then .ok (.complement (.union (.single '\r') (.single '\n')))
  else .ok (.complement (.single '\n'))

/-- A pattern that was read, or a gap where only flags were changed. -/
abbrev Piece := Leveled (Option Pattern)

/-- A piece with a single level. -/
def Piece.of (p : Pattern) : Piece :=
  { value := some p }

/-- The pattern of pieces one after the other, the last one being first in the list. -/
def seqPieces (done : List Piece) : Leveled Pattern :=
  ⟨seqAll (done.reverse.filterMap (·.value)), depthTogether (done.map (·.depth))⟩

/-- The pattern of alternatives, the last one being first in the list. -/
def altPieces (finished : List (Leveled Pattern)) : Leveled Pattern :=
  ⟨altAll (finished.reverse.map (·.value)), depthTogether (finished.map (·.depth))⟩

/-- Repeats the last of the pieces read so far; a lazy repetition matches the same texts. -/
def repeatLast (done : List Piece) (min : Nat) (max : Option Nat) : Reader (List Piece) := do
  match done with
  | ⟨some p, depth⟩ :: rest =>
    skipBlanks
    let _ ← takeIf ['?']
    return ⟨some (.repeated p min max), depth + 1⟩ :: rest
  | _ => throw .nothingToRepeat

mutual

/-- The alternatives up to a closing parenthesis or the end.  `done` holds the pieces of the current
alternative, last first; `finished` holds the alternatives before it, last first. -/
def alternatives : Nat → List Piece → List (Leveled Pattern) → Reader (Leveled Pattern)
  | 0, _, _ => throw .unexpectedEnd
  | n + 1, done, finished => do
    skipBlanks
    let s ← get
    let flags := s.flags
    match s.rest with
    | [] => return altPieces (seqPieces done :: finished)
    | c :: rest =>
      if c = ')' then return altPieces (seqPieces done :: finished)
      set { s with rest := rest }
      match c with
      | '|' => alternatives n [] (seqPieces done :: finished)
      | '(' =>
        let group ← group n
        alternatives n (group :: done) finished
      | '[' =>
        let k ← classStart
        let set ← classBody (2 * rest.length + 2) k []
        alternatives n (⟨some (.one set.value), set.depth⟩ :: done) finished
      | '.' => alternatives n (.of (.one (← pointSet flags)) :: done) finished
      | '^' =>
        let a := if flags.multiLine then Anchor.lineStart flags.crlf else .textStart
        alternatives n (.of (.anchor a) :: done) finished
      | '$' =>
        let a := if flags.multiLine then Anchor.lineEnd flags.crlf else .textEnd
        alternatives n (.of (.anchor a) :: done) finished
      | '?' => alternatives n (← repeatLast done 0 (some 1)) finished
      | '*' => alternatives n (← repeatLast done 0 none) finished
      | '+' => alternatives n (← repeatLast done 1 none) finished
      | '\x7b' =>
        if (done.head?.bind (·.value)).isNone then throw .nothingToRepeat
        let (low, high) ← bounds
        alternatives n (← repeatLast done low high) finished
      | '\\' =>
        match ← escape with
        | .char c byte => alternatives n (.of (.one (← charSet flags c byte)) :: done) finished
        | .set set => alternatives n (.of (.one set) :: done) finished
        | .anchor a => alternatives n (.of (.anchor a) :: done) finished
      | c => alternatives n (.of (.one (← charSet flags c false)) :: done) finished

/-- The pattern of a group whose opening parenthesis has been read, or a gap if the parentheses only
change flags. -/
def group : Nat → Reader Piece
  | 0 => throw .unexpectedEnd
  | n + 1 => do
    skipBlanks
    let before := (← get).flags
    let close (p : Leveled Pattern) : Reader Piece := do
      unless ← takeIf [')'] do throw .badGroup
      modify fun s => { s with flags := before }
      return ⟨some p.value, p.depth + 1⟩
    let ahead := (← get).rest
    if ["?=", "?!", "?<=", "?<!"].any fun w => w.toList.isPrefixOf ahead then
      throw .lookAround
    if (← takeIf "?P<".toList) || (← takeIf "?<".toList) then
      groupName
      close (← alternatives n [] [])
    else if ← takeIf ['?'] then
      let (flags, alone) ← groupFlags ((← get).rest.length + 1) before [] true false
      modify fun s => { s with flags := flags }
      if alone then return { value := none }
      close (← alternatives n [] [])
    else
      close (← alternatives n [] [])

end

/-- How deep a pattern may be nested.  Groups, repetitions and classes in brackets are levels, and
so are alternatives and patterns one after the other. -/
def nestLimit : Nat := 250

/-- The largest size of a pattern, ten mebibytes. -/
def sizeLimit : Nat := 10 * 1024 * 1024

/-- The pattern that a text stands for under the given flags. -/
def parse (flags : Flags) (text : String) : Except Fault Pattern := do
  let (p, s) ← (alternatives (2 * text.length + 2) [] []).run ⟨text.toList, flags, []⟩
  match s.rest with
  | [] =>
    if nestLimit < p.depth then throw .tooDeep
    if sizeLimit < p.value.compiledSize false then throw .tooLarge
    return p.value
  | c :: _ => throw (.unexpected c)

end Pattern

end RequestSuite
