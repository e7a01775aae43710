import RequestSuite.Template.Token
import RequestSuite.Value.Basic
import RequestSuite.Variable.Environment

/-!
# Outer variables in texts

An occurrence of `$` with a name in braces stands for the outer variable of that name, one that was
set before the program started.  Occurrences of names that are not set stay as they are, and what is
filled in is not read again.
-/

namespace RequestSuite

namespace Expansion

/-- The values of the outer variables. -/
abbrev Surroundings := String → Option String

/-- A piece of a text. -/
inductive Piece where
  | char (c : Char)
  /-- An occurrence of a name. -/
  | variable (name : List Char)
deriving DecidableEq, Repr

/-- The name in braces at the start of a text, and the rest. -/
def braced? : List Char → Option (List Char × List Char)
  | '\x7b' :: rest =>
    match Template.name? rest with
    | some (name, '\x7d' :: rest) => some (name, rest)
    | _ => none
  | _ => none

theorem braced?_length {s name rest : List Char} (h : braced? s = some (name, rest)) :
    rest.length < s.length := by
  unfold braced? at h
  split at h
  · split at h
    · rename_i heq
      have := Template.name?_length heq
      simp only [Option.some.injEq, Prod.mk.injEq] at h
      simp only [List.length_cons] at this ⊢
      rw [← h.2]
      omega
    · simp at h
  · simp at h

/-- The pieces of a text. -/
def pieces (s : List Char) : List Piece :=
  match s with
  | [] => []
  | c :: rest =>
    if c = '$' then
      match _h : braced? rest with
      | some (name, rest') => .variable name :: pieces rest'
      | none => .char c :: pieces rest
    else .char c :: pieces rest
termination_by s.length
decreasing_by
  all_goals simp only [List.length_cons]
  all_goals try have := braced?_length _h
  all_goals omega

/-- The text that a piece was read from. -/
def Piece.source : Piece → List Char
  | .char c => [c]
  | .variable name => '$' :: '\x7b' :: name ++ ['\x7d']

/-- What a piece becomes. -/
def Piece.expand (outer : Surroundings) (p : Piece) : List Char :=
  match p with
  | .char c => [c]
  | .variable name =>
    match outer (String.ofList name) with
    | some v => v.toList
    | none => p.source

/-- The name that a piece is an occurrence of. -/
def Piece.name? : Piece → Option String
  | .char _ => none
  | .variable name => some (String.ofList name)

/-- The names that occur in a text. -/
def namesIn (s : String) : List String :=
  (pieces s.toList).filterMap Piece.name?

/-- A text with the outer variables filled in. -/
def expandText (outer : Surroundings) (s : String) : String :=
  String.ofList ((pieces s.toList).flatMap (Piece.expand outer))

end Expansion

namespace Value

open Expansion in
mutual

/-- A value with the outer variables filled in to its texts; keys stay as they are. -/
def expand (outer : Surroundings) : Value → Value
  | .string s => .string (expandText outer s)
  | .array items => .array (expandItems outer items)
  | .object fields => .object (expandFields outer fields)
  | .null => .null
  | .bool b => .bool b
  | .number n => .number n

/-- Fills in the outer variables in each item. -/
def expandItems (outer : Surroundings) : List Value → List Value
  | [] => []
  | v :: rest => expand outer v :: expandItems outer rest

/-- Fills in the outer variables in each field's value. -/
def expandFields (outer : Surroundings) : List (String × Value) → List (String × Value)
  | [] => []
  | (k, v) :: rest => (k, expand outer v) :: expandFields outer rest

end

open Expansion in
mutual

/-- The names of outer variables that occur in the texts of a value. -/
def outerNames : Value → List String
  | .string s => namesIn s
  | .array items => outerNamesItems items
  | .object fields => outerNamesFields fields
  | .null => []
  | .bool _ => []
  | .number _ => []

/-- The names of outer variables that occur in items. -/
def outerNamesItems : List Value → List String
  | [] => []
  | v :: rest => outerNames v ++ outerNamesItems rest

/-- The names of outer variables that occur in the values of fields. -/
def outerNamesFields : List (String × Value) → List String
  | [] => []
  | (_, v) :: rest => outerNames v ++ outerNamesFields rest

end

end Value

/-- The names of outer variables that occur in the environments of a set. -/
def EnvironmentSet.outerNames (set : EnvironmentSet) : List String :=
  set.entries.flatMap fun p => Value.outerNamesFields p.2

theorem Value.names_expandFields (outer : Expansion.Surroundings) (fields : List (String × Value)) :
    Table.names (expandFields outer fields) = Table.names fields := by
  induction fields with
  | nil => rfl
  | cons p rest ih =>
    rw [expandFields, Table.names, List.map_cons]
    exact congrArg (p.1 :: ·) ih

/-- The environments of a set with the outer variables filled in. -/
def EnvironmentSet.expand (outer : Expansion.Surroundings) (set : EnvironmentSet) :
    EnvironmentSet where
  entries := set.entries.map fun p => (p.1, Value.expandFields outer p.2)
  sorted := by
    rw [List.map_map]
    exact set.sorted
  distinct p hp := by
    obtain ⟨q, hq, rfl⟩ := List.mem_map.mp hp
    rw [Value.names_expandFields]
    exact set.distinct q hq

end RequestSuite
