import RequestSuite.Variable.Environment
import RequestSuite.Template.Resolve

/-!
# The variables of a run

A store has two layers.  The base layer comes from the selected environment and from assignments on
the command line; the captured layer comes from responses and hides the base layer.  Loading an
environment starts both layers afresh.
-/

namespace RequestSuite

/-- The variables of a run. -/
structure Store where
  /-- Variables of the selected environment, and assignments. -/
  base : Table Value := []
  /-- Variables captured from responses. -/
  captured : Table Value := []
deriving DecidableEq, Repr, Inhabited

namespace Store

/-- The store without variables. -/
def empty : Store := {}

/-- The base variables of an environment: those of the external sets in their order, then those of
the bundle, each hiding the ones before it. -/
def layered (name : String) (bundle : EnvironmentSet) (external : List EnvironmentSet) :
    Table Value :=
  (external ++ [bundle]).foldl (fun t set => t.insertAll ((set.get? name).getD [])) []

/-- A store freshly loaded with an environment, or with no variables if none is selected. -/
def load (environment : Option String) (bundle : EnvironmentSet) (external : List EnvironmentSet) :
    Store :=
  match environment with
  | none => empty
  | some name => ⟨layered name bundle external, []⟩

/-- Sets a base variable. -/
def insert (s : Store) (key : String) (value : Value) : Store :=
  { s with base := s.base.insert key value }

/-- Sets a captured variable. -/
def capture (s : Store) (key : String) (value : Value) : Store :=
  { s with captured := s.captured.insert key value }

/-- Sets base variables to texts. -/
def override (s : Store) (assignments : List (String × String)) : Store :=
  assignments.foldl (fun s p => s.insert p.1 (.string p.2)) s

/-- The value of a variable; a captured one hides a base one. -/
def get? (s : Store) (key : String) : Option Value :=
  (s.captured.get? key).or (s.base.get? key)

/-- The number of variables. -/
def size (s : Store) : Nat :=
  s.base.length + (s.captured.filter fun p => !s.base.has p.1).length

/-- Whether there is no variable. -/
def isEmpty (s : Store) : Bool :=
  s.base.isEmpty && s.captured.isEmpty

/-! ## The layers of a load -/

/-- Lays the variables of one environment of some sets over a table, set by set. -/
theorem get?_foldl_insertAll (name key : String) (sets : List EnvironmentSet) (t : Table Value) :
    (sets.foldl (fun t set => t.insertAll ((set.get? name).getD [])) t).get? key =
      (sets.filterMap fun set => set.value? name key).getLast?.or (t.get? key) := by
  induction sets generalizing t with
  | nil => rfl
  | cons set rest ih =>
    rw [List.foldl_cons, ih]
    have hset : (t.insertAll ((set.get? name).getD [])).get? key =
        (set.value? name key).or (t.get? key) := by
      rcases henv : set.get? name with _ | env
      · simp [EnvironmentSet.value?, henv, Table.insertAll]
      · rw [Option.getD_some, Table.get?_insertAll (EnvironmentSet.nodup_names_of_get? henv)]
        simp [EnvironmentSet.value?, henv]
    rw [hset]
    rcases hv : set.value? name key with _ | v
    · simp only [List.filterMap_cons, hv, Option.none_or]
    · simp only [List.filterMap_cons, hv, List.getLast?_cons]
      cases (rest.filterMap fun set => set.value? name key).getLast? <;> rfl

/-- The bundle hides all external sets, and each external set the ones before it. -/
theorem get?_layered (name : String) (bundle : EnvironmentSet) (external : List EnvironmentSet)
    (key : String) : (layered name bundle external).get? key =
      (bundle.value? name key).or
        (external.filterMap fun set => set.value? name key).getLast? := by
  rw [layered, get?_foldl_insertAll, List.filterMap_append, List.getLast?_append]
  rcases hv : bundle.value? name key with _ | v <;> simp [hv]

theorem nodup_names_layered (name : String) (bundle : EnvironmentSet)
    (external : List EnvironmentSet) : (layered name bundle external).names.Nodup := by
  rw [layered]
  suffices h : ∀ (sets : List EnvironmentSet) (t : Table Value), t.names.Nodup →
      (sets.foldl (fun t set => t.insertAll ((set.get? name).getD [])) t).names.Nodup from
    h _ _ List.nodup_nil
  intro sets
  induction sets with
  | nil => exact fun _ ht => ht
  | cons set rest ih => exact fun t ht => ih _ (Table.nodup_names_insertAll ht)

end Store

end RequestSuite
