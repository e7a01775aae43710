import RequestSuite.Number.Basic
import RequestSuite.Text.Percent
import RequestSuite.Toml.Moment

/-!
# Reading TOML documents

A document is a sequence of lines: headers of tables, keys with values, and comments.  The value of
a document is a map with its keys in order.
-/

namespace RequestSuite.Toml

/-! ## Blanks, comments and lines -/

/-- The rest of a line without the blanks at its start. -/
def skipBlanks (s : List Char) : List Char :=
  s.dropWhile fun c => c == ' ' || c == '\t'

/-- The characters that may stand in comments and texts. -/
def isPrintable (c : Char) : Bool :=
  c == '\t' || (0x20 ≤ c.toNat && c.toNat != 0x7F)

/-- What follows a line break that starts here. -/
def lineBreak? : List Char → Option (List Char)
  | '\n' :: rest => some rest
  | '\r' :: '\n' :: rest => some rest
  | _ => none

/-- What follows a comment, if one starts here. -/
def skipComment (s : List Char) : List Char :=
  match s with
  | '#' :: rest => rest.dropWhile isPrintable
  | s => s

/-- The rest of a line has to be blank, but for a comment. -/
def lineEnd (s : List Char) : Except Fault (Unit × List Char) :=
  let s := skipComment (skipBlanks s)
  match lineBreak? s, s with
  | some rest, _ => .ok ((), rest)
  | none, [] => .ok ((), [])
  | none, c :: _ => .error (.unexpectedChar c)

/-- What follows blanks, comments and line breaks. -/
def skipGaps : Nat → List Char → List Char
  | 0, s => s
  | n + 1, s =>
    let s := skipComment (skipBlanks s)
    match lineBreak? s with
    | some rest => skipGaps n rest
    | none => s

/-! ## Texts -/

/-- The character of a hexadecimal numeral of a given length. -/
def hexChar (size : Nat) (s : List Char) : Except Fault (Char × List Char) :=
  let digits := s.take size
  let n := digits.foldlM (fun n c => (Text.hexDigitValue? c).map fun d => n * 16 + d) 0
  match n with
  | some n =>
    if digits.length = size ∧ (n < 0xD800 ∨ (0xE000 ≤ n ∧ n < 0x110000)) then
      .ok (Char.ofNat n, s.drop size)
    else .error .badEscape
  | none => .error .badEscape

/-- The character of an escape after its backslash. -/
def escape : List Char → Except Fault (Char × List Char)
  | 'b' :: rest => .ok ('\x08', rest)
  | 't' :: rest => .ok ('\t', rest)
  | 'n' :: rest => .ok ('\n', rest)
  | 'f' :: rest => .ok ('\x0c', rest)
  | 'r' :: rest => .ok ('\r', rest)
  | 'e' :: rest => .ok ('\x1b', rest)
  | '"' :: rest => .ok ('"', rest)
  | '\\' :: rest => .ok ('\\', rest)
  | 'x' :: rest => hexChar 2 rest
  | 'u' :: rest => hexChar 4 rest
  | 'U' :: rest => hexChar 8 rest
  | _ => .error .badEscape

/-- The rest of a text on one line, up to its closing quotation mark.  Escapes count only between
double ones. -/
def quotedRest (quote : Char) : Nat → List Char → Except Fault (List Char × List Char)
  | 0, _ => .error .unexpectedEnd
  | n + 1, s =>
    match s with
    | [] => .error .unexpectedEnd
    | c :: rest =>
      if c = quote then .ok ([], rest)
      else if c = '\\' ∧ quote = '"' then do
        let (c, rest) ← escape rest
        let (cs, rest) ← quotedRest quote n rest
        return (c :: cs, rest)
      else if isPrintable c then do
        let (cs, rest) ← quotedRest quote n rest
        return (c :: cs, rest)
      else .error .controlCharacter

/-- What follows a backslash at the end of a line: the blanks and line breaks up to the next
character do not count. -/
def joinedLine? (s : List Char) : Option (List Char) :=
  (lineBreak? (skipBlanks s)).map fun rest =>
    rest.dropWhile fun c => c == ' ' || c == '\t' || c == '\n' || c == '\r'

/-- The rest of a text over several lines, up to three quotation marks.  One or two more of them
right there belong to the text. -/
def linesRest (quote : Char) : Nat → List Char → Except Fault (List Char × List Char)
  | 0, _ => .error .unexpectedEnd
  | n + 1, s =>
    match s with
    | [] => .error .unexpectedEnd
    | c :: rest =>
      if s.take 3 = [quote, quote, quote] then
        let extra := ((s.drop 3).take 2).takeWhile (· == quote)
        .ok (extra, s.drop (3 + extra.length))
      else if c = '\\' ∧ quote = '"' then
        match joinedLine? rest with
        | some rest => linesRest quote n rest
        | none => do
          let (c, rest) ← escape rest
          let (cs, rest) ← linesRest quote n rest
          return (c :: cs, rest)
      else if isPrintable c || c == '\n' || (c == '\r' && rest.head? == some '\n') then do
        let (cs, rest) ← linesRest quote n rest
        return (c :: cs, rest)
      else .error .controlCharacter

/-- A text whose opening quotation mark was read; three marks open a text over several lines, of
which a first empty line does not count. -/
def quoted (quote : Char) (s : List Char) : Except Fault (String × List Char) := do
  let (cs, rest) ←
    if s.take 2 = [quote, quote] then
      let s := s.drop 2
      linesRest quote (s.length + 1) ((lineBreak? s).getD s)
    else quotedRest quote (s.length + 1) s
  return (String.ofList cs, rest)

/-! ## Keys -/

/-- The characters of keys without quotation marks. -/
def isBareChar (c : Char) : Bool :=
  c.isAlphanum || c == '_' || c == '-'

/-- A key without points. -/
def simpleKey (s : List Char) : Except Fault (String × List Char) :=
  match s with
  | [] => .error .unexpectedEnd
  | c :: rest =>
    if c = '"' ∨ c = '\'' then do
      let (cs, rest) ← quotedRest c (rest.length + 1) rest
      return (String.ofList cs, rest)
    else if isBareChar c then
      .ok (String.ofList (s.takeWhile isBareChar), s.dropWhile isBareChar)
    else .error (.unexpectedChar c)

/-- A key, whose parts are separated by points, and the blanks after it. -/
def dottedKey : Nat → List Char → Except Fault (List String × List Char)
  | 0, _ => .error .unexpectedEnd
  | n + 1, s => do
    let (key, rest) ← simpleKey (skipBlanks s)
    match skipBlanks rest with
    | '.' :: rest => do
      let (keys, rest) ← dottedKey n rest
      return (key :: keys, rest)
    | rest => return ([key], rest)

/-- A character that has to come next. -/
def expect (c : Char) (s : List Char) : Except Fault (Unit × List Char) :=
  match s with
  | [] => .error .unexpectedEnd
  | d :: rest => if d = c then .ok ((), rest) else .error (.unexpectedChar d)

/-! ## Numbers -/

/-- Digits of a base without the underscores that stand between two of them. -/
def plainDigits? (base : Nat) (s : List Char) : Option (List Char) :=
  let isDigit (c : Char) : Bool := (Text.hexDigitValue? c).any (· < base)
  let bounded := s.head?.any isDigit && s.getLast?.any isDigit
  let separate := (s.zip s.tail).all fun p => !(p.1 == '_' && p.2 == '_')
  if bounded && separate && s.all fun c => isDigit c || c == '_' then
    some (s.filter (· != '_'))
  else none

/-- The value of digits of a base. -/
def digitsValue (base : Nat) (digits : List Char) : Nat :=
  digits.foldl (fun n c => n * base + (Text.hexDigitValue? c).getD 0) 0

/-- The decimal digits of a whole number, without zeros in front. -/
def wholeDigits? (s : List Char) : Option (List Char) :=
  (plainDigits? 10 s).filter fun digits => digits.length == 1 || digits.head? != some '0'

/-- The whole number that a text spells. -/
def int? (s : List Char) : Option Int :=
  match s with
  | '0' :: 'x' :: digits => (plainDigits? 16 digits).map fun ds => (digitsValue 16 ds : Int)
  | '0' :: 'o' :: digits => (plainDigits? 8 digits).map fun ds => (digitsValue 8 ds : Int)
  | '0' :: 'b' :: digits => (plainDigits? 2 digits).map fun ds => (digitsValue 2 ds : Int)
  | '+' :: digits => (wholeDigits? digits).map fun ds => (digitsValue 10 ds : Int)
  | '-' :: digits => (wholeDigits? digits).map fun ds => -(digitsValue 10 ds : Int)
  | digits => (wholeDigits? digits).map fun ds => (digitsValue 10 ds : Int)

/-- A sign and what follows it. -/
def splitSign : List Char → Bool × List Char
  | '-' :: rest => (true, rest)
  | '+' :: rest => (false, rest)
  | s => (false, s)

/-- The number with a fraction or an exponent that a text spells. -/
def decimal? (s : List Char) : Option Decimal := do
  let (negative, s) := splitSign s
  let isMark (c : Char) : Bool := c == '.' || c == 'e' || c == 'E'
  let whole ← wholeDigits? (s.takeWhile fun c => !isMark c)
  let (fraction, s) ← match s.dropWhile fun c => !isMark c with
    | '.' :: rest => do
      let fraction ← plainDigits? 10 (rest.takeWhile fun c => !isMark c)
      pure (fraction, rest.dropWhile fun c => !isMark c)
    | rest => pure ([], rest)
  let exponent : Int ← match s with
    | [] => pure 0
    | '.' :: _ => none
    | _ :: rest => do
      let (below, digits) := splitSign rest
      let n : Int := digitsValue 10 (← plainDigits? 10 digits)
      pure (if below then -n else n)
  return ⟨negative, Decimal.readDigits (whole ++ fraction), exponent - fraction.length⟩

/-- The characters of values without quotation marks and brackets. -/
def isScalarChar (c : Char) : Bool :=
  c.isAlphanum || c == '_' || c == '-' || c == '+' || c == '.' || c == ':'

/-- The value of a text without quotation marks.  Infinities become null. -/
def scalarValue (s : List Char) : Except Fault Value :=
  let text := String.ofList s
  if text = "true" then .ok (.bool true)
  else if text = "false" then .ok (.bool false)
  else if ["inf", "nan"].contains (String.ofList (splitSign s).2) then .ok .null
  else
    match int? s, decimal? s, moment? s with
    | some i, _, _ =>
      if Number.isExact i then .ok (.number (.int i)) else .error (.numberOutOfRange text)
    | none, some d, _ =>
      match d.toBinary64? with
      | some x => .ok (.number (.float x))
      | none => .error (.numberOutOfRange text)
    | none, none, some m => .ok (.object [(momentKey, .string (String.ofList m))])
    | none, none, none => .error (.badNumber text)

/-- A value without quotation marks, and what follows it.  A blank between a date and a time
belongs to the value. -/
def scalar (s : List Char) : Except Fault (Value × List Char) := do
  let word := s.takeWhile isScalarChar
  let rest := s.dropWhile isScalarChar
  match s with
  | [] => throw .unexpectedEnd
  | c :: _ => if word.isEmpty then throw (.unexpectedChar c)
  match rest with
  | ' ' :: d :: more =>
    if isDate word ∧ d.isDigit then
      let time := (d :: more).takeWhile isScalarChar
      return (← scalarValue (word ++ ' ' :: time), (d :: more).dropWhile isScalarChar)
    else return (← scalarValue word, rest)
  | _ => return (← scalarValue word, rest)

/-! ## Values -/

mutual

/-- A value, with at most `depth` levels of brackets. -/
def value : Nat → Nat → List Char → Except Fault (Item × List Char)
  | 0, _, _ => .error .unexpectedEnd
  | n + 1, depth, s =>
    match s with
    | '"' :: rest => do
      let (t, rest) ← quoted '"' rest
      return (.value (.string t), rest)
    | '\'' :: rest => do
      let (t, rest) ← quoted '\'' rest
      return (.value (.string t), rest)
    | '[' :: rest =>
      match depth with
      | 0 => .error .tooDeep
      | depth + 1 => do
        let (vs, rest) ← items n depth rest
        return (.value (.array vs), rest)
    | '\x7b' :: rest =>
      match depth with
      | 0 => .error .tooDeep
      | depth + 1 => do
        let (fields, rest) ← braced n depth [] rest
        return (.value fields.toValue, rest)
    | s => do
      let (v, rest) ← scalar s
      return (.value v, rest)

/-- The items of a list up to its closing bracket. -/
def items : Nat → Nat → List Char → Except Fault (List Value × List Char)
  | 0, _, _ => .error .unexpectedEnd
  | n + 1, depth, s =>
    match skipGaps s.length s with
    | ']' :: rest => .ok ([], rest)
    | s => do
      let (v, rest) ← value n depth s
      let v := Fields.valueOf v
      match skipGaps rest.length rest with
      | ',' :: rest => do
        let (vs, rest) ← items n depth rest
        return (v :: vs, rest)
      | ']' :: rest => return ([v], rest)
      | [] => throw .unexpectedEnd
      | c :: _ => throw (.unexpectedChar c)

/-- The fields of a table up to its closing brace. -/
def braced : Nat → Nat → Fields → List Char → Except Fault (Fields × List Char)
  | 0, _, _, _ => .error .unexpectedEnd
  | n + 1, depth, fields, s =>
    match skipGaps s.length s with
    | '\x7d' :: rest => .ok (fields, rest)
    | s => do
      let (path, rest) ← dottedKey (s.length + 1) s
      let ((), rest) ← expect '=' rest
      let (v, rest) ← value n depth (skipBlanks rest)
      let fields ← fields.addValue path v
      match skipGaps rest.length rest with
      | ',' :: rest => braced n depth fields rest
      | '\x7d' :: rest => return (fields, rest)
      | [] => throw .unexpectedEnd
      | c :: _ => throw (.unexpectedChar c)

end

/-! ## Documents -/

/-- The levels of brackets that a value may have. -/
def nestingLimit : Nat := 80

/-- The lines of a document, of which those so far have built `root` and stand under the header
`path`. -/
def lines : Nat → List String → Fields → List Char → Except Fault Fields
  | 0, _, root, _ => .ok root
  | n + 1, path, root, s =>
    match skipBlanks s with
    | [] => .ok root
    | '[' :: '[' :: rest => do
      let (header, rest) ← dottedKey (rest.length + 1) rest
      let ((), rest) ← expect ']' rest
      let ((), rest) ← expect ']' rest
      let ((), rest) ← lineEnd rest
      lines n header (← root.openListed header) rest
    | '[' :: rest => do
      let (header, rest) ← dottedKey (rest.length + 1) rest
      let ((), rest) ← expect ']' rest
      let ((), rest) ← lineEnd rest
      lines n header (← root.openTable header) rest
    | c :: rest =>
      if c = '#' ∨ (lineBreak? (c :: rest)).isSome then do
        let ((), rest) ← lineEnd (c :: rest)
        lines n path root rest
      else do
        let s := c :: rest
        let (key, rest) ← dottedKey (s.length + 1) s
        let ((), rest) ← expect '=' rest
        let rest := skipBlanks rest
        let (v, rest) ← value (2 * rest.length + 2) nestingLimit rest
        let ((), rest) ← lineEnd rest
        let root ← Fields.edit false (fun _ fields => fields.addValue key v) path .header root
        lines n path root rest

/-- The map that a document is. -/
def readValue (text : String) : Except Fault Value := do
  let s := match text.toList with
    | '\ufeff' :: rest => rest
    | s => s
  return (← lines (s.length + 1) [] [] s).toValue

end RequestSuite.Toml
