import RequestSuite.Value.Basic

/-!
# Paths into values

A path is a list of steps.  A key step leads from a map to the value under the key, an index step
from a list to one of its items, and a wildcard to all children of a list or a map.  A path is
followed level by level (`Path.select`), and a path without wildcard selects at most one value.
-/

namespace RequestSuite

namespace Path

/-- One step down into a value. -/
inductive Step where
  /-- To the value under a key. -/
  | key (name : String)
  /-- To an item by its position, counted from the end if it is negative. -/
  | index (position : Int)
  /-- To every child. -/
  | wildcard
deriving DecidableEq, Repr

/-- The place from the start of a list of some length that a position stands for. -/
def fromStart (length : Nat) (position : Int) : Int :=
  if position < 0 then length + position else position

/-- The item at a position, which counts from the end if it is negative. -/
def item? (items : List Value) (position : Int) : Option Value :=
  let i := fromStart items.length position
  if i < 0 then none else items[i.toNat]?

/-- The values to which a step leads. -/
def Step.follow : Step → Value → List Value
  | .key name, .object fields => (Table.get? fields name).toList
  | .index i, .array items => (item? items i).toList
  | .wildcard, .array items => items
  | .wildcard, .object fields => fields.map (·.2)
  | _, _ => []

/-- The values to which a step leads from the values of one level. -/
def Step.nextLevel (level : List Value) (step : Step) : List Value :=
  level.flatMap step.follow

/-- The values to which a list of steps leads, in document order. -/
def select (steps : List Step) (v : Value) : List Value :=
  steps.foldl Step.nextLevel [v]

/-- What a list of steps finds: with a wildcard the list of all values, otherwise the one value;
nothing if no value is selected. -/
def find? (steps : List Step) (v : Value) : Option Value :=
  let found := select steps v
  if steps.contains .wildcard then
    if found.isEmpty then none else some (.array found)
  else
    found.head?

/-! ## From level to level -/

/-- What is below some values is what is below each of them, one after the other. -/
theorem foldl_nextLevel (steps : List Step) (level : List Value) :
    steps.foldl Step.nextLevel level = level.flatMap (select steps) := by
  induction steps generalizing level with
  | nil => exact (List.flatMap_singleton' level).symm
  | cons step rest ih =>
    have hselect : select (step :: rest) = fun v => (step.follow v).flatMap (select rest) := by
      funext v
      rw [select, List.foldl_cons, ih, Step.nextLevel, List.flatMap_singleton]
    rw [List.foldl_cons, ih, Step.nextLevel, List.flatMap_assoc, hselect]

theorem select_append (steps rest : List Step) (v : Value) :
    select (steps ++ rest) v = (select steps v).flatMap (select rest) := by
  rw [select, List.foldl_append, foldl_nextLevel]
  rfl

theorem select_cons (step : Step) (rest : List Step) (v : Value) :
    select (step :: rest) v = (step.follow v).flatMap (select rest) := by
  rw [select, List.foldl_cons, foldl_nextLevel, Step.nextLevel, List.flatMap_singleton]

end Path

end RequestSuite
