import RequestSuite.Assertion.Basic
import RequestSuite.Pattern.Parser
import RequestSuite.Text.Integer
import RequestSuite.Text.Lower

/-!
# Evaluating tests

An expected value that is not a map, or is an empty one, has to have the same text as the received
value.  Every key of another map is an operator of its own and gives one assertion, in the order of
the keys; a pattern and its flags are one operator and give one assertion together.
-/

namespace RequestSuite

namespace Assertion

/-! ## The operators -/

/-- The order of a received and an expected value: numbers by size, texts by code points. -/
def order (received : Option Value) (expected : Value) : Except TestFault Ordering :=
  match received, expected with
  | some (.number a), .number b => .ok (a.toBinary64.compare b.toBinary64)
  | some (.string a), .string b => .ok (compare a b)
  | _, _ => .error (.incomparable expected.kind (Value.kindOf received))

/-- The largest size that can be asked for, a number of 64 bits. -/
def sizeLimit : Nat := 0xFFFFFFFFFFFFFFFF

/-- The size that an expected value asks for: a whole number that is not negative, or its text. -/
def size? : Value → Option Nat
  | .number (.int i) => if 0 ≤ i then some i.toNat else none
  | .number (.float x) =>
    match x.toInt? with
    | some i => if 0 ≤ i then some (min i.toNat sizeLimit) else none
    | none => none
  | .string s => Text.readUInt64? (Text.trimChars s.toList)
  | _ => none

/-- The number of items, fields or characters of a received value. -/
def measure : Option Value → Except TestFault Nat
  | some (.array items) => .ok items.length
  | some (.string s) => .ok s.length
  | some (.object fields) => .ok fields.length
  | other => .error (.unsized (Value.kindOf other))

/-- Whether a received value has the expected size. -/
def hasSize (received : Option Value) (expected : Value) : Except TestFault Bool :=
  match size? expected with
  | none => .error (.invalidSize expected.text)
  | some n => (measure received).map (· == n)

/-- The flags of a pattern under which a text of letters puts it. -/
def patternFlags (letters : List Char) : Except TestFault Pattern.Flags :=
  letters.foldlM (fun flags letter =>
    match letter with
    | 'i' => .ok { flags with ignoreCase := true }
    | 'm' => .ok { flags with multiLine := true }
    | 's' => .ok { flags with dotAll := true }
    | 'x' => .ok { flags with verbose := true }
    | other => .error (.unknownFlag other)) {}

/-- Whether the pattern among the operators matches somewhere in the text of a received value. -/
def matchesPattern (operators : Table Value) (received : Option Value) : Except TestFault Bool := do
  let text ← match operators.get? Operator.pattern.key with
    | none | some .null => throw .missingPattern
    | some p => pure p.text
  let flags ← patternFlags (((operators.get? Operator.flagsKey).map Value.text).getD "").toList
  match Pattern.parse flags text with
  | .error fault => throw (.invalidPattern fault.message)
  | .ok pattern =>
    match received with
    | none => throw .missingValue
    | some v => return pattern.matchesIn v.text

/-- Whether a received value compares with an expected one as an operator demands.  Patterns need
the other operators of the map, too, and are left to `matchesPattern`. -/
def compares (op : Operator) (expected : Value) (received : Option Value) :
    Except TestFault Bool :=
  match op with
  | .equal => .ok (Value.textOf received == expected.text)
  | .notEqual => .ok (Value.textOf received != expected.text)
  | .less => (order received expected).map (· == .lt)
  | .greater => (order received expected).map (· == .gt)
  | .atMost => (order received expected).map (· != .gt)
  | .atLeast => (order received expected).map (· != .lt)
  | .size => hasSize received expected
  | .presence =>
    match expected with
    | .bool b => .ok (received.isSome == b)
    | _ => .error (.invalidPresence expected.text)
  | .kind =>
    match expected with
    | .string name => .ok (Text.sameIgnoringCase name (Value.kindOf received))
    | _ => .error (.invalidKind expected.text)
  | .pattern => .error .missingPattern

/-! ## The assertions of a test -/

/-- The assertion that the outcome of a comparison gives. -/
def finish (source : Source) (operator : String) (expected : Value) (received : Option Value) :
    Except TestFault Bool → Assertion
  | .ok true => success source operator expected received
  | .ok false =>
    failure source operator expected received ("Expected " ++ source.label ++ " " ++ operator ++
      " " ++ expected.text ++ ", but got " ++ Value.textOf received)
  | .error fault => error source operator expected received fault

/-- The assertion of one operator. -/
def ofOperator (source : Source) (op : Operator) (expected : Value) (received : Option Value) :
    Assertion :=
  finish source op.key expected received (compares op expected received)

/-- The assertion of a pattern with its flags. -/
def ofPattern (source : Source) (operators : Table Value) (received : Option Value) : Assertion :=
  finish source Operator.pattern.key ((operators.get? Operator.pattern.key).getD .null) received
    (matchesPattern operators received)

/-- The assertions of the remaining keys of a map of operators.  A pattern counts at the place
where it or its flags come first. -/
def ofKeys (source : Source) (operators : Table Value) (received : Option Value)
    (patternDone : Bool) : List (String × Value) → List Assertion
  | [] => []
  | (key, expected) :: rest =>
    match Operator.ofKey? key with
    | some .pattern =>
      if patternDone then ofKeys source operators received true rest
      else ofPattern source operators received :: ofKeys source operators received true rest
    | some op =>
      ofOperator source op expected received :: ofKeys source operators received patternDone rest
    | none =>
      error source key expected received (.unknownOperator key) ::
        ofKeys source operators received patternDone rest

/-- The operator shown for a value that could not be received. -/
def shownOperator : Value → String
  | .object ((key, _) :: _) => key
  | _ => Operator.equal.key

/-- The assertions of one test, for what was found at its place or the fault of looking there. -/
def evaluate (source : Source) (expected : Value) (received : Except TestFault (Option Value)) :
    List Assertion :=
  match received with
  | .error fault => [error source (shownOperator expected) expected none fault]
  | .ok found =>
    match expected with
    | .object (op :: rest) => ofKeys source (op :: rest) found false (op :: rest)
    | _ => [ofOperator source .equal expected found]

/-! ## What an assertion tells

An assertion tells what was compared, whatever the outcome. -/

section

variable (source : Source) (operator : String) (expected : Value) (received : Option Value)
  (outcome : Except TestFault Bool)

@[simp] theorem source_finish :
    (finish source operator expected received outcome).source = source := by
  rcases outcome with fault | _ | _ <;> rfl

@[simp] theorem operator_finish :
    (finish source operator expected received outcome).operator = operator := by
  rcases outcome with fault | _ | _ <;> rfl

@[simp] theorem expected_finish :
    (finish source operator expected received outcome).expected = expected := by
  rcases outcome with fault | _ | _ <;> rfl

@[simp] theorem received_finish :
    (finish source operator expected received outcome).received = received := by
  rcases outcome with fault | _ | _ <;> rfl

theorem passed_finish_iff :
    (finish source operator expected received outcome).passed = true ↔ outcome = .ok true := by
  rcases outcome with fault | _ | _ <;> simp [finish, success, failure, error]

end

/-! ## Tests with one assertion -/

theorem evaluate_operator (source : Source) {op : Operator} (hop : op ≠ .pattern) (expected : Value)
    (received : Option Value) : evaluate source (.object [(op.key, expected)]) (.ok received) =
      [ofOperator source op expected received] := by
  simp only [evaluate, ofKeys, Operator.ofKey?_key]

theorem evaluate_plain (source : Source) {expected : Value} (received : Option Value)
    (hplain : ∀ field rest, expected ≠ .object (field :: rest)) :
    evaluate source expected (.ok received) = [ofOperator source .equal expected received] := by
  simp only [evaluate]

theorem passed_ofOperator_iff (source : Source) (op : Operator) (expected : Value)
    (received : Option Value) : (ofOperator source op expected received).passed = true ↔
      compares op expected received = .ok true :=
  passed_finish_iff source op.key expected received _

end Assertion

end RequestSuite
