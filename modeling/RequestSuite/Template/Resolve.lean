import RequestSuite.Distinct
import RequestSuite.Template.Token
import RequestSuite.Value.Text

/-!
# Filling in templates

A template is filled in from a look-up of variables.  A template that is one placeholder and
nothing else becomes the variable's value itself, with its kind; every other template becomes a
text.  A placeholder of an undefined variable stays as it is and its name is noted.  What is filled
in is not read again, so a value that looks like a template stays as it is.
-/

namespace RequestSuite

/-- Where variables get their values from. -/
abbrev Lookup := String → Option Value

namespace Template

/-- What a token becomes. -/
def Token.fill (lookup : Lookup) : Token → List Char
  | .text cs => cs
  | .escape => ['$']
  | .variable name delimited =>
    match lookup name with
    | some v => v.text.toList
    | none => placeholderChars name delimited

/-- The names in a list of tokens, with repetitions. -/
def namesIn : List Token → List String
  | [] => []
  | .variable name _ :: rest => name :: namesIn rest
  | _ :: rest => namesIn rest

theorem namesIn_pushChar (c : Char) (ts : List Token) : namesIn (pushChar c ts) = namesIn ts := by
  unfold pushChar
  split <;> rfl

/-- The names in a template, with repetitions. -/
def names (s : String) : List String :=
  namesIn (tokens s)

/-- The names in a template for which there is no value, with repetitions. -/
def undefinedNames (lookup : Lookup) (s : String) : List String :=
  (names s).filter fun name => (lookup name).isNone

/-- A template filled in as a text. -/
def resolveText (lookup : Lookup) (s : String) : String :=
  String.ofList ((tokens s).flatMap (Token.fill lookup))

/-- A template filled in as a value. -/
def resolve (lookup : Lookup) (s : String) : Value :=
  match tokens s with
  | [.variable name _] =>
    match lookup name with
    | some v => v
    | none => .string s
  | _ => .string (resolveText lookup s)

theorem flatMap_fill_pushChar (lookup : Lookup) (c : Char) (ts : List Token) :
    (pushChar c ts).flatMap (Token.fill lookup) = c :: ts.flatMap (Token.fill lookup) := by
  unfold pushChar
  split <;> rfl

/-- A template that is not one placeholder becomes a text. -/
theorem resolve_eq_string {lookup : Lookup} {s : String}
    (h : ∀ name delimited, tokens s ≠ [.variable name delimited]) :
    resolve lookup s = .string (resolveText lookup s) := by
  rw [resolve]
  split
  · rename_i name delimited htokens
    exact absurd htokens (h name delimited)
  · rfl

end Template

namespace Value

mutual

/-- A value with the templates in it filled in; keys stay as they are. -/
def resolve (lookup : Lookup) : Value → Value
  | .string s => Template.resolve lookup s
  | .array items => .array (resolveItems lookup items)
  | .object fields => .object (resolveFields lookup fields)
  | .null => .null
  | .bool b => .bool b
  | .number n => .number n

/-- Fills in the templates of each item. -/
def resolveItems (lookup : Lookup) : List Value → List Value
  | [] => []
  | v :: rest => resolve lookup v :: resolveItems lookup rest

/-- Fills in the templates of each field's value. -/
def resolveFields (lookup : Lookup) : List (String × Value) → List (String × Value)
  | [] => []
  | (k, v) :: rest => (k, resolve lookup v) :: resolveFields lookup rest

end

mutual

/-- The names of the placeholders in a value, in document order and with repetitions. -/
def templateNames : Value → List String
  | .string s => Template.names s
  | .array items => templateNamesOfItems items
  | .object fields => templateNamesOfFields fields
  | _ => []

/-- The names of the placeholders in a list of values. -/
def templateNamesOfItems : List Value → List String
  | [] => []
  | v :: rest => templateNames v ++ templateNamesOfItems rest

/-- The names of the placeholders in the values of a list of fields. -/
def templateNamesOfFields : List (String × Value) → List String
  | [] => []
  | (_, v) :: rest => templateNames v ++ templateNamesOfFields rest

end

/-- The names in a value for which there is no variable, each once, in document order. -/
def undefinedNames (lookup : Lookup) (v : Value) : List String :=
  distinct (v.templateNames.filter fun name => (lookup name).isNone)

end Value

end RequestSuite
