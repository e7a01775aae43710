import RequestSuite.Value.Basic

/-!
# Tables under construction

A TOML text builds its tables piece by piece, under headers and by dotted keys.  Every table keeps
how it came about, since that decides which later pieces may still add to it: no table is defined
twice, and a table written in braces is complete.
-/

namespace RequestSuite.Toml

/-- Why a text is not a usable document. -/
inductive Fault where
  | unexpectedEnd
  | unexpectedChar (found : Char)
  | controlCharacter
  | badEscape
  | badNumber (text : String)
  | badDate (text : String)
  | numberOutOfRange (text : String)
  | duplicateKey (key : String)
  /-- A key that goes on from something that is no table. -/
  | notATable (key : String)
  | tooDeep
  /-- A value of another kind than the one that is expected. -/
  | wrongKind (expected found : String)
deriving DecidableEq, Repr

/-- What a fault is reported as. -/
def Fault.message : Fault → String
  | .unexpectedEnd => "unexpected end of the document"
  | .unexpectedChar c => "unexpected character '" ++ String.singleton c ++ "'"
  | .controlCharacter => "control character"
  | .badEscape => "invalid escape"
  | .badNumber text => "invalid number '" ++ text ++ "'"
  | .badDate text => "invalid date or time '" ++ text ++ "'"
  | .numberOutOfRange text => "number out of range: " ++ text
  | .duplicateKey key => "duplicate key '" ++ key ++ "'"
  | .notATable key => "'" ++ key ++ "' is not a table"
  | .tooDeep => "nesting too deep"
  | .wrongKind expected found => "expected " ++ expected ++ ", found " ++ found

/-- How a table came about. -/
inductive Origin where
  /-- On the way of a header to another table. -/
  | implicit
  /-- On the way of a dotted key. -/
  | dotted
  /-- By a header of its own. -/
  | header
deriving DecidableEq, Repr

/-- What stands under a key. -/
inductive Item where
  /-- A value that is complete. -/
  | value (v : Value)
  | table (origin : Origin) (fields : List (String × Item))
  /-- A list of tables, of which the last is the one to be added to. -/
  | tables (earlier : List (List (String × Item))) (last : List (String × Item))
deriving Inhabited

/-- The keys of a table with what stands under them. -/
abbrev Fields := Table Item

namespace Fields

/-- Changes the table to which a path leads from a table, and makes the tables on the way. -/
def edit (dotted : Bool) (change : Origin → Fields → Except Fault Fields) :
    List String → Origin → Fields → Except Fault Fields
  | [], origin, fields => change origin fields
  | key :: path, _, fields =>
    match fields.get? key with
    | none => do
      let origin := if dotted then Origin.dotted else .implicit
      return fields.insert key (.table origin (← edit dotted change path origin []))
    | some (.value _) => .error (.notATable key)
    | some (.tables earlier last) => do
      return fields.insert key (.tables earlier (← edit dotted change path .header last))
    | some (.table origin inner) => do
      if dotted ∧ origin = .header then throw (.duplicateKey key)
      return fields.insert key (.table origin (← edit dotted change path origin inner))

/-- The parts of a path: the way to a table, and a key in it. -/
def splitPath (path : List String) : List String × String :=
  (path.dropLast, path.getLast?.getD "")

/-- Adds a value under a dotted key of a table.  A table that a longer key leads to has to be the
work of such keys alone. -/
def addValue (path : List String) (v : Item) (fields : Fields) : Except Fault Fields :=
  let (way, key) := splitPath path
  edit true (fun origin fields =>
    if fields.has key ∨ (!way.isEmpty ∧ origin ≠ .dotted) then .error (.duplicateKey key)
    else .ok (fields.insert key v)) way .header fields

/-- Opens the table of a header. -/
def openTable (path : List String) (fields : Fields) : Except Fault Fields :=
  let (way, key) := splitPath path
  edit false (fun _ fields =>
    match fields.get? key with
    | none => .ok (fields.insert key (.table .header []))
    | some (.table .implicit inner) => .ok (fields.insert key (.table .header inner))
    | some _ => .error (.duplicateKey key)) way .header fields

/-- Opens a further table of the list of tables of a header. -/
def openListed (path : List String) (fields : Fields) : Except Fault Fields :=
  let (way, key) := splitPath path
  edit false (fun _ fields =>
    match fields.get? key with
    | none => .ok (fields.insert key (.tables [] []))
    | some (.tables earlier last) => .ok (fields.insert key (.tables (earlier ++ [last]) []))
    | some _ => .error (.duplicateKey key)) way .header fields

/-- Fields in the order of their keys. -/
def sorted (fields : List (String × Value)) : List (String × Value) :=
  fields.mergeSort fun a b => a.1 ≤ b.1

mutual

/-- The value that an item is. -/
def valueOf : Item → Value
  | .value v => v
  | .table _ fields => .object (sorted (valuesOf fields))
  | .tables earlier last => .array (listOf earlier ++ [.object (sorted (valuesOf last))])

/-- The fields of a table with their values. -/
def valuesOf : List (String × Item) → List (String × Value)
  | [] => []
  | (key, item) :: rest => (key, valueOf item) :: valuesOf rest

/-- The values of a list of tables. -/
def listOf : List (List (String × Item)) → List Value
  | [] => []
  | fields :: rest => .object (sorted (valuesOf fields)) :: listOf rest

end

/-- The value of a table, with the keys in order. -/
def toValue (fields : Fields) : Value :=
  .object (sorted (valuesOf fields))

end Fields

end RequestSuite.Toml
