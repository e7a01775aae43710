import RequestSuite.Json.Numeral
import RequestSuite.Value.Basic

/-!
# Reading JSON documents

A document is one value with blanks around it.  The reader is strict: no text after the value, no
control characters and no halves of surrogate pairs in texts, no numbers beyond the doubles, and no
more levels of nesting than the caller allows.  A key that is repeated keeps its first place and
its last value.
-/

namespace RequestSuite

namespace Json

/-- Why a text is not a document. -/
inductive Fault where
  | unexpectedEnd
  | unexpected (found : Char)
  | badNumeral
  | numberOutOfRange
  | badEscape
  | loneSurrogate
  | controlCharacter
  | tooDeep
  | trailingText
deriving DecidableEq, Repr

/-- What a fault is reported as. -/
def Fault.message : Fault → String
  | .unexpectedEnd => "unexpected end of the document"
  | .unexpected c => "unexpected character '" ++ String.singleton c ++ "'"
  | .badNumeral => "invalid number"
  | .numberOutOfRange => "number out of range"
  | .badEscape => "invalid escape"
  | .loneSurrogate => "lone surrogate in a string"
  | .controlCharacter => "control character in a string"
  | .tooDeep => "nesting too deep"
  | .trailingText => "trailing characters"

/-- The blanks between the parts of a document. -/
def isSpace (c : Char) : Bool :=
  c == ' ' || c == '\n' || c == '\t' || c == '\r'

/-- A text without the blanks at its start. -/
def skipSpace (s : List Char) : List Char :=
  s.dropWhile isSpace

/-! ## Texts -/

/-- The value of a hexadecimal digit. -/
def hexValue? (c : Char) : Option Nat :=
  if c.isDigit then some (c.toNat - 48)
  else if 'a' ≤ c ∧ c ≤ 'f' then some (c.toNat - 87)
  else if 'A' ≤ c ∧ c ≤ 'F' then some (c.toNat - 55)
  else none

/-- The number that four hexadecimal digits stand for, and the rest. -/
def fourDigits : List Char → Except Fault (Nat × List Char)
  | a :: b :: c :: d :: rest =>
    match hexValue? a, hexValue? b, hexValue? c, hexValue? d with
    | some a, some b, some c, some d => .ok (((a * 16 + b) * 16 + c) * 16 + d, rest)
    | _, _, _, _ => .error .badEscape
  | _ => .error .unexpectedEnd

/-- The character of the escape after a backslash and the letter `u`; a pair of surrogates makes
one character. -/
def unicodeEscape (s : List Char) : Except Fault (Char × List Char) := do
  let (n, rest) ← fourDigits s
  if 0xDC00 ≤ n ∧ n ≤ 0xDFFF then throw .loneSurrogate
  else if 0xD800 ≤ n ∧ n ≤ 0xDBFF then
    match rest with
    | '\\' :: 'u' :: rest =>
      let (m, rest) ← fourDigits rest
      if 0xDC00 ≤ m ∧ m ≤ 0xDFFF then
        return (Char.ofNat (0x10000 + (n - 0xD800) * 0x400 + (m - 0xDC00)), rest)
      else throw .loneSurrogate
    | _ => throw .loneSurrogate
  else return (Char.ofNat n, rest)

/-- The character of the escape after a backslash. -/
def escape : List Char → Except Fault (Char × List Char)
  | '"' :: rest => .ok ('"', rest)
  | '\\' :: rest => .ok ('\\', rest)
  | '/' :: rest => .ok ('/', rest)
  | 'b' :: rest => .ok ('\x08', rest)
  | 'f' :: rest => .ok ('\x0c', rest)
  | 'n' :: rest => .ok ('\n', rest)
  | 'r' :: rest => .ok ('\r', rest)
  | 't' :: rest => .ok ('\t', rest)
  | 'u' :: rest => unicodeEscape rest
  | [] => .error .unexpectedEnd
  | _ => .error .badEscape

/-- The characters up to the closing quotation mark, and the rest after it.  Each step takes at
least one character, so as many steps as there are characters are enough. -/
def quoted : Nat → List Char → Except Fault (List Char × List Char)
  | 0, _ => .error .unexpectedEnd
  | _ + 1, [] => .error .unexpectedEnd
  | n + 1, c :: rest =>
    if c = '"' then .ok ([], rest)
    else if c = '\\' then do
      let (c, rest) ← escape rest
      let (cs, rest) ← quoted n rest
      return (c :: cs, rest)
    else if c.toNat < 32 then .error .controlCharacter
    else do
      let (cs, rest) ← quoted n rest
      return (c :: cs, rest)

/-- The text up to the closing quotation mark. -/
def quotedText (s : List Char) : Except Fault (String × List Char) :=
  (quoted (s.length + 1) s).map fun (cs, rest) => (String.ofList cs, rest)

/-! ## Numbers -/

/-- The leading digits and the rest. -/
def spanDigits (s : List Char) : List Char × List Char :=
  (s.takeWhile Char.isDigit, s.dropWhile Char.isDigit)

/-- The digits after a decimal point, if there is one; at least one digit has to follow. -/
def fractionPart : List Char → Except Fault (Option (List Char) × List Char)
  | '.' :: rest =>
    let (digits, rest) := spanDigits rest
    if digits.isEmpty then .error .badNumeral else .ok (some digits, rest)
  | s => .ok (none, s)

/-- The exponent, if there is one; at least one digit has to follow. -/
def exponentPart (s : List Char) : Except Fault (Option Int × List Char) :=
  let digitsAfter (negative : Bool) (s : List Char) :=
    let (digits, rest) := spanDigits s
    let n : Int := Decimal.readDigits digits
    if digits.isEmpty then .error Fault.badNumeral
    else .ok (some (if negative then -n else n), rest)
  match s with
  | c :: rest =>
    if c = 'e' ∨ c = 'E' then
      match rest with
      | '+' :: rest => digitsAfter false rest
      | '-' :: rest => digitsAfter true rest
      | rest => digitsAfter false rest
    else .ok (none, s)
  | [] => .ok (none, s)

/-- The number at the start of a text whose sign has been read. -/
def unsignedNumber (negative : Bool) (s : List Char) : Except Fault (Number × List Char) := do
  let (whole, rest) := spanDigits s
  if whole.isEmpty ∨ (1 < whole.length ∧ whole.head? = some '0') then throw .badNumeral
  let (fraction, rest) ← fractionPart rest
  let (exponent, rest) ← exponentPart rest
  match (Numeral.mk negative whole fraction exponent).toNumber? with
  | some n => return (n, rest)
  | none => throw .numberOutOfRange

/-- The number at the start of a text. -/
def number : List Char → Except Fault (Number × List Char)
  | '-' :: rest => unsignedNumber true rest
  | s => unsignedNumber false s

/-! ## Values -/

/-- The rest after a word that has to come next. -/
def keyword (word : List Char) (value : Value) (s : List Char) :
    Except Fault (Value × List Char) :=
  if word.isPrefixOf s then .ok (value, s.drop word.length) else .error .badNumeral

mutual

/-- The value at the start of a text, and the rest.  Every step takes at least one character, so
the number of characters bounds the steps; `depth` bounds the levels of nesting. -/
def value : Nat → Nat → List Char → Except Fault (Value × List Char)
  | 0, _, _ => .error .unexpectedEnd
  | n + 1, depth, s =>
    match skipSpace s with
    | [] => .error .unexpectedEnd
    | c :: rest =>
      if c = '"' then do
        let (text, rest) ← quotedText rest
        return (.string text, rest)
      else if c = '[' then
        match depth with
        | 0 => .error .tooDeep
        | depth + 1 =>
          match skipSpace rest with
          | ']' :: rest => .ok (.array [], rest)
          | rest => do
            let (v, rest) ← value n depth rest
            let (vs, rest) ← items n depth rest
            return (.array (v :: vs), rest)
      else if c = '\x7b' then
        match depth with
        | 0 => .error .tooDeep
        | depth + 1 =>
          match skipSpace rest with
          | '\x7d' :: rest => .ok (.object [], rest)
          | rest => do
            let (f, rest) ← field n depth rest
            let (fs, rest) ← fields n depth rest
            return (.object (Table.ofPairs (f :: fs)), rest)
      else if c = 't' then keyword "true".toList (.bool true) (c :: rest)
      else if c = 'f' then keyword "false".toList (.bool false) (c :: rest)
      else if c = 'n' then keyword "null".toList .null (c :: rest)
      else if c = '-' ∨ c.isDigit then do
        let (x, rest) ← number (c :: rest)
        return (.number x, rest)
      else .error (.unexpected c)

/-- The items after the first one, up to the closing bracket. -/
def items : Nat → Nat → List Char → Except Fault (List Value × List Char)
  | 0, _, _ => .error .unexpectedEnd
  | n + 1, depth, s =>
    match skipSpace s with
    | ']' :: rest => .ok ([], rest)
    | ',' :: rest => do
      let (v, rest) ← value n depth rest
      let (vs, rest) ← items n depth rest
      return (v :: vs, rest)
    | [] => .error .unexpectedEnd
    | c :: _ => .error (.unexpected c)

/-- A key, a colon and a value. -/
def field : Nat → Nat → List Char → Except Fault ((String × Value) × List Char)
  | 0, _, _ => .error .unexpectedEnd
  | n + 1, depth, s =>
    match skipSpace s with
    | '"' :: rest => do
      let (key, rest) ← quotedText rest
      match skipSpace rest with
      | ':' :: rest =>
        let (v, rest) ← value n depth rest
        return ((key, v), rest)
      | [] => throw .unexpectedEnd
      | c :: _ => throw (.unexpected c)
    | [] => .error .unexpectedEnd
    | c :: _ => .error (.unexpected c)

/-- The fields after the first one, up to the closing brace. -/
def fields : Nat → Nat → List Char → Except Fault (List (String × Value) × List Char)
  | 0, _, _ => .error .unexpectedEnd
  | n + 1, depth, s =>
    match skipSpace s with
    | '\x7d' :: rest => .ok ([], rest)
    | ',' :: rest => do
      let (f, rest) ← field n depth rest
      let (fs, rest) ← fields n depth rest
      return (f :: fs, rest)
    | [] => .error .unexpectedEnd
    | c :: _ => .error (.unexpected c)

end

/-- The levels of nesting that a document may have. -/
def nestingLimit : Nat := 127

/-- The value that a document holds. -/
def read (s : String) : Except Fault Value := do
  let cs := s.toList
  let (v, rest) ← value (2 * cs.length + 2) nestingLimit cs
  if (skipSpace rest).isEmpty then return v else throw .trailingText

end Json

end RequestSuite
