import RequestSuite.Number.Basic
import RequestSuite.Value.Basic
import RequestSuite.Variable.Environment
import RequestSuite.Yaml.Node

/-!
# Values of YAML documents

A quoted scalar is a text.  A plain scalar is null, a truth value or a number if it is spelled like
one, and a text otherwise.  Keys are scalars and stand for their texts however they are spelled.
An alias counts as the node it stands for, at the depth of its own place, and only so many aliases
are followed.
-/

namespace RequestSuite.Yaml

/-! ## Plain scalars -/

/-- The spellings of null. -/
def isNullText (s : String) : Bool :=
  ["null", "Null", "NULL", "~"].contains s

/-- The truth value that a text spells. -/
def bool? (s : String) : Option Bool :=
  if ["true", "True", "TRUE"].contains s then some true
  else if ["false", "False", "FALSE"].contains s then some false
  else none

/-- Whether a text is several digits of which the first is a zero, perhaps with a sign. -/
def hasLeadingZero (s : List Char) : Bool :=
  let digits := match s with
    | '-' :: rest => rest
    | '+' :: rest => rest
    | s => s
  1 < digits.length && digits.head? == some '0' && digits.all Char.isDigit

/-- The whole number that digits of a base stand for. -/
def natOf? (base : Nat) (digits : List Char) : Option Nat :=
  if digits.isEmpty then none
  else
    digits.foldlM (fun n c =>
      (Text.hexDigitValue? c).bind fun d => if d < base then some (n * base + d) else none) 0

/-- The whole number that a text without sign spells, in one of four bases. -/
def natText? (s : List Char) : Option Nat :=
  match s with
  | '0' :: 'x' :: digits => natOf? 16 digits
  | '0' :: 'o' :: digits => natOf? 8 digits
  | '0' :: 'b' :: digits => natOf? 2 digits
  | digits => if hasLeadingZero digits then none else natOf? 10 digits

/-- The whole number that a text spells. -/
def int? (s : List Char) : Option Int :=
  match s with
  | '-' :: rest => (natText? rest).map fun n => -(n : Int)
  | '+' :: rest => (natText? rest).map fun n => (n : Int)
  | s => (natText? s).map fun n => (n : Int)

/-- Whether a whole number is small enough to count as one although it may be out of range; larger
ones are read as floating-point numbers. -/
def isInteger (i : Int) : Bool :=
  -0x80000000000000000000000000000000 ≤ i && i < 0x100000000000000000000000000000000

/-- The parts of a decimal numeral with an optional fraction and exponent. -/
def decimal? (s : List Char) : Option Decimal :=
  let (negative, s) := match s with
    | '-' :: rest => (true, rest)
    | '+' :: rest => (false, rest)
    | s => (false, s)
  let whole := s.takeWhile Char.isDigit
  let s := s.dropWhile Char.isDigit
  let (fraction, s) := match s with
    | '.' :: rest => (rest.takeWhile Char.isDigit, rest.dropWhile Char.isDigit)
    | s => ([], s)
  if whole.isEmpty ∧ fraction.isEmpty then none
  else
    let decimal (exponent : Int) : Decimal :=
      ⟨negative, Decimal.readDigits (whole ++ fraction), exponent - fraction.length⟩
    match s with
    | [] => some (decimal 0)
    | e :: rest =>
      if e == 'e' || e == 'E' then
        let digits := match rest with
          | '-' :: digits => digits
          | '+' :: digits => digits
          | digits => digits
        if !digits.isEmpty && digits.all Char.isDigit then
          let n : Int := Decimal.readDigits digits
          some (decimal (if rest.head? = some '-' then -n else n))
        else none
      else none

/-- The value of a floating-point number that a text spells; those that are not finite become
null. -/
def float? (s : List Char) : Option Value :=
  let unsigned := match s with
    | '+' :: rest => rest
    | '-' :: rest => rest
    | s => s
  if [".inf", ".Inf", ".INF"].contains (String.ofList unsigned) then some .null
  else if [".nan", ".NaN", ".NAN"].contains (String.ofList s) then some .null
  else (decimal? s).bind fun d => d.toBinary64?.map fun x => .number (.float x)

/-- The value of a whole number, which may be out of range. -/
def intValue (text : String) (i : Int) : Except Fault Value :=
  if Number.isExact i then .ok (.number (.int i)) else .error (.numberOutOfRange text)

/-- The value of a plain scalar. -/
def plainValue (text : String) : Except Fault Value :=
  let s := text.toList
  if text.isEmpty || isNullText text then .ok .null
  else
    match bool? text, (int? s).filter isInteger with
    | some b, _ => .ok (.bool b)
    | none, some i => intValue text i
    | none, none =>
      if hasLeadingZero s then .ok (.string text) else .ok ((float? s).getD (.string text))

/-! ## Tagged scalars -/

/-- The start of the tags that every document knows. -/
def coreTag (name : String) : String :=
  "tag:yaml.org,2002:" ++ name

/-- Whether a tag is private to the document, so nothing is known about it. -/
def isPrivate (tag : String) : Bool :=
  tag.toList.head? == some '!'

/-- The value of a scalar with a tag. -/
def taggedValue (tag text : String) : Except Fault Value :=
  let fits (v : Option Value) : Except Fault Value :=
    match v with
    | some v => .ok v
    | none => .error (.badTaggedText tag text)
  if isPrivate tag then .error (.unknownTag tag)
  else if tag = coreTag "bool" then fits ((bool? text).map .bool)
  else if tag = coreTag "int" then
    match (int? text.toList).filter isInteger with
    | some i => intValue text i
    | none => .error (.badTaggedText tag text)
  else if tag = coreTag "float" then fits (float? text.toList)
  else if tag = coreTag "null" then fits (if isNullText text then some .null else none)
  else .ok (.string text)

/-! ## Nodes -/

/-- A step of reading values, which counts the aliases that were followed. -/
abbrev Build := StateT Nat (Except Fault)

namespace Build

variable (limit : Nat) (anchors : Anchors)

/-- The node itself, or the one that an alias stands for. -/
def follow : Node → Build Node
  | .alias number => do
    modify (· + 1)
    if limit < (← get) then throw .tooManyAliases
    match anchors.node? number with
    | some v => return v
    | none => throw .unexpectedToken
  | v => return v

/-- The text of a key. -/
def key (v : Node) : Build String := do
  match ← follow limit anchors v with
  | .scalar _ text _ => return text
  | _ => throw .complexKey

/-- Checks that nothing is private about the tag of a list or a map. -/
def known : Option String → Build Unit
  | some tag => if isPrivate tag then throw (.unknownTag tag) else pure ()
  | none => pure ()

/-- The value of a node, with at most `depth` levels of nesting. -/
def value : Nat → Node → Build Value
  | depth, v => do
    match ← follow limit anchors v with
    | .scalar none text plain => if plain then plainValue text else return .string text
    | .scalar (some tag) text _ => taggedValue tag text
    | .sequence tag items =>
      known tag
      match depth with
      | 0 => throw .tooDeep
      | depth + 1 => return .array (← items.mapM (value depth))
    | .mapping tag fields =>
      known tag
      match depth with
      | 0 => throw .tooDeep
      | depth + 1 =>
        let pairs ← fields.mapM fun (k, v) => do
          return (← key limit anchors k, ← value depth v)
        return .object (Table.ofPairs pairs)
    | .alias _ => throw .unexpectedToken

/-- The fields of a node that has to be a map; a scalar without text counts as an empty one. -/
def fieldsOf (v : Node) : Build (List (Node × Node)) := do
  match ← follow limit anchors v with
  | .mapping _ fields => return fields
  | .scalar _ text plain => if text.isEmpty && plain then return [] else throw .notAMap
  | _ => throw .notAMap

/-- The variables of environments by their names. -/
def environments (v : Node) : Build EnvironmentSet := do
  let envs ← (← fieldsOf limit anchors v).mapM fun (name, env) => do
    let name ← key limit anchors name
    let entries ← (← fieldsOf limit anchors env).mapM fun (k, v) => do
      return (← key limit anchors k, ← value limit anchors (Document.Read.nestingLimit - 2) v)
    return (name, Table.ofPairs entries)
  return .ofList envs

end Build

/-- How many aliases are followed for each mark in the text of a document. -/
def aliasFactor : Nat := 100

/-- Reads the topmost node of a document. -/
def Document.build {α : Type} (d : Document) (f : Nat → Anchors → Node → Build α) :
    Except Fault α := do
  return (← (f (aliasFactor * d.root.size) d.anchors d.root).run 0).1

/-- The value of the document that a text holds; null if it holds none. -/
def readValue (text : String) : Except Fault Value := do
  match ← Document.ofText text with
  | none => return .null
  | some d => d.build fun limit anchors v =>
      Build.value limit anchors Document.Read.nestingLimit v

/-- The environments that a text describes; none if it holds no document. -/
def readEnvironments (text : String) : Except Fault EnvironmentSet := do
  match ← Document.ofText text with
  | none => return .empty
  | some d => d.build Build.environments

end RequestSuite.Yaml
