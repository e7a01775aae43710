import Mathlib.Data.List.DropRight
import Mathlib.Data.Set.Card
import RequestSuite.Variable.Store

/-!
# Histories of variables

A store that starts without variables is changed by four operations: loads, overrides, single
writes to the base layer, and captures.  Where a look-up gets its value from depends on the whole
history: `Store.get?_ofHistory` says that it is the last capture since the last load, or else the
last write to the base layer since then, or else what that load found in the environments.  The
same theorem says that the size of a store counts each variable once.
-/

namespace RequestSuite.Store

/-- An operation on the variables of a run. -/
inductive Operation where
  /-- the environments are loaded afresh -/
  | load (environment : Option String) (bundle : EnvironmentSet) (external : List EnvironmentSet)
  /-- base variables are set to texts -/
  | override (assignments : List (String × String))
  /-- a base variable is set -/
  | insert (key : String) (value : Value)
  /-- a captured variable is set -/
  | capture (key : String) (value : Value)

/-- The store after an operation. -/
def apply (s : Store) : Operation → Store
  | .load environment bundle external => load environment bundle external
  | .override assignments => s.override assignments
  | .insert key value => s.insert key value
  | .capture key value => s.capture key value

/-- The store after a history of operations, from the store without variables. -/
def ofHistory (history : List Operation) : Store :=
  history.foldl apply empty

theorem ofHistory_concat (history : List Operation) (op : Operation) :
    ofHistory (history ++ [op]) = (ofHistory history).apply op := by
  rw [ofHistory, List.foldl_append]
  rfl

/-! ## What a history says about a variable -/

namespace Operation

/-- Whether an operation is a load. -/
def isLoad : Operation → Bool
  | load .. => true
  | _ => false

/-- The values that an operation captures under a key. -/
def captured (key : String) : Operation → List Value
  | capture k value => if k = key then [value] else []
  | _ => []

/-- The values that an operation writes to the base layer under a key, one after the other. -/
def written (key : String) : Operation → List Value
  | override assignments =>
    assignments.filterMap fun p => if p.1 = key then some (.string p.2) else none
  | insert k value => if k = key then [value] else []
  | _ => []

/-- The value that a load finds under a key: that of the bundle, or else that of the last of the
external sets which has one.  Without a selected environment nothing is found. -/
def loaded (key : String) : Operation → Option Value
  | load (some name) bundle external =>
    (bundle.value? name key).or (external.filterMap fun set => set.value? name key).getLast?
  | _ => none

end Operation

open Operation

/-- The operations of a history since its last load. -/
def sinceLoad (history : List Operation) : List Operation :=
  history.rtakeWhile fun op => !op.isLoad

/-- The last load of a history. -/
def lastLoad? (history : List Operation) : Option Operation :=
  history.reverse.find? isLoad

theorem sinceLoad_concat (history : List Operation) (op : Operation) :
    sinceLoad (history ++ [op]) = if op.isLoad then [] else sinceLoad history ++ [op] := by
  rw [sinceLoad, List.rtakeWhile_concat, sinceLoad]
  cases op.isLoad <;> rfl

theorem lastLoad?_concat (history : List Operation) (op : Operation) :
    lastLoad? (history ++ [op]) = if op.isLoad then some op else lastLoad? history := by
  rw [lastLoad?, List.reverse_append, lastLoad?]
  cases hop : op.isLoad <;> simp [hop]

/-! ## One operation -/

theorem get?_base_override (s : Store) (assignments : List (String × String)) (key : String) :
    (s.override assignments).base.get? key =
      ((written key (.override assignments)).getLast?).or (s.base.get? key) := by
  induction assignments generalizing s with
  | nil => rfl
  | cons p rest ih =>
    have hstep : s.override (p :: rest) = (s.insert p.1 (.string p.2)).override rest := rfl
    rw [hstep, ih, Store.insert, Table.get?_insert]
    by_cases hp : p.1 = key
    · simp only [written, List.filterMap_cons, if_pos hp, List.getLast?_cons]
      cases (rest.filterMap _).getLast? <;> rfl
    · simp only [written, List.filterMap_cons, if_neg hp]

theorem captured_override (s : Store) (assignments : List (String × String)) :
    (s.override assignments).captured = s.captured := by
  induction assignments generalizing s with
  | nil => rfl
  | cons p rest ih => exact ih (s.insert p.1 (.string p.2))

theorem get?_captured_apply (s : Store) {op : Operation} (hop : op.isLoad = false) (key : String) :
    (s.apply op).captured.get? key = ((op.captured key).getLast?).or (s.captured.get? key) := by
  cases op with
  | load => cases hop
  | override assignments => rw [apply, captured_override]; rfl
  | insert k value => rfl
  | capture k value =>
    rw [apply, Store.capture, Table.get?_insert]
    by_cases hk : k = key <;> simp [Operation.captured, hk]

theorem get?_base_apply (s : Store) {op : Operation} (hop : op.isLoad = false) (key : String) :
    (s.apply op).base.get? key = ((op.written key).getLast?).or (s.base.get? key) := by
  cases op with
  | load => cases hop
  | override assignments => exact get?_base_override s assignments key
  | insert k value =>
    rw [apply, Store.insert, Table.get?_insert]
    by_cases hk : k = key <;> simp [written, hk]
  | capture k value => rfl

theorem captured_apply_load (s : Store) {op : Operation} (hop : op.isLoad = true) :
    (s.apply op).captured = [] := by
  cases op with
  | load environment bundle external => cases environment <;> rfl
  | override => cases hop
  | insert => cases hop
  | capture => cases hop

theorem get?_base_apply_load (s : Store) {op : Operation} (hop : op.isLoad = true) (key : String) :
    (s.apply op).base.get? key = op.loaded key := by
  cases op with
  | load environment bundle external =>
    cases environment with
    | none => rfl
    | some name => exact get?_layered name bundle external key
  | override => cases hop
  | insert => cases hop
  | capture => cases hop

/-! ## A whole history

By induction on the history from its end: a load forgets everything before it, and any other
operation adds what it says to what was known. -/

theorem get?_captured_ofHistory (history : List Operation) (key : String) :
    (ofHistory history).captured.get? key =
      ((sinceLoad history).flatMap (Operation.captured key)).getLast? := by
  induction history using List.reverseRecOn with
  | nil => rfl
  | append_singleton history op ih =>
    rw [ofHistory_concat, sinceLoad_concat]
    cases hop : op.isLoad with
    | true =>
      rw [captured_apply_load _ hop]
      rfl
    | false =>
      rw [get?_captured_apply _ hop, ih]
      simp

theorem get?_base_ofHistory (history : List Operation) (key : String) :
    (ofHistory history).base.get? key =
      (((sinceLoad history).flatMap (written key)).getLast?).or
        ((lastLoad? history).bind (loaded key)) := by
  induction history using List.reverseRecOn with
  | nil => rfl
  | append_singleton history op ih =>
    rw [ofHistory_concat, sinceLoad_concat, lastLoad?_concat]
    cases hop : op.isLoad with
    | true =>
      rw [get?_base_apply_load _ hop]
      rfl
    | false =>
      rw [get?_base_apply _ hop, ih]
      simp [Option.or_assoc]

/-! ## Counting variables -/

/-- Both layers have distinct names. -/
def Distinct (s : Store) : Prop :=
  s.base.names.Nodup ∧ s.captured.names.Nodup

theorem Distinct.insert {s : Store} (h : s.Distinct) (key : String) (value : Value) :
    (s.insert key value).Distinct :=
  ⟨Table.nodup_names_insert h.1, h.2⟩

theorem Distinct.override {s : Store} (h : s.Distinct) (assignments : List (String × String)) :
    (s.override assignments).Distinct := by
  induction assignments generalizing s with
  | nil => exact h
  | cons p rest ih => exact ih (h.insert p.1 (.string p.2))

theorem Distinct.apply {s : Store} (h : s.Distinct) (op : Operation) : (s.apply op).Distinct := by
  cases op with
  | load environment bundle external =>
    cases environment with
    | none => exact ⟨List.nodup_nil, List.nodup_nil⟩
    | some name => exact ⟨nodup_names_layered name bundle external, List.nodup_nil⟩
  | override assignments => exact h.override assignments
  | insert key value => exact h.insert key value
  | capture key value => exact ⟨h.1, Table.nodup_names_insert h.2⟩

theorem distinct_ofHistory (history : List Operation) : (ofHistory history).Distinct := by
  induction history using List.reverseRecOn with
  | nil => exact ⟨List.nodup_nil, List.nodup_nil⟩
  | append_singleton history op ih =>
    rw [ofHistory_concat]
    exact ih.apply op

/-- The names of all variables: those of the base layer, then the captured ones that do not hide
any of them. -/
def keys (s : Store) : List String :=
  s.base.names ++ (s.captured.filter fun p => !s.base.has p.1).map (·.1)

theorem length_keys (s : Store) : s.keys.length = s.size := by
  simp [keys, size, Table.names]

theorem mem_keys {s : Store} {key : String} : key ∈ s.keys ↔ s.get? key ≠ none := by
  have hcaptured : key ∈ (s.captured.filter fun p => !s.base.has p.1).map (·.1) ↔
      key ∈ s.captured.names ∧ key ∉ s.base.names := by
    rw [← Table.get?_eq_none_iff]
    simp only [List.mem_map, List.mem_filter, Table.names]
    constructor
    · rintro ⟨p, ⟨hp, hbase⟩, rfl⟩
      exact ⟨⟨p, hp, rfl⟩, by simpa [Table.has] using hbase⟩
    · rintro ⟨⟨p, hp, rfl⟩, hbase⟩
      exact ⟨p, ⟨hp, by simp [Table.has, hbase]⟩, rfl⟩
  rw [keys, List.mem_append, hcaptured, get?, ne_eq, Option.or_eq_none_iff,
    Table.get?_eq_none_iff, Table.get?_eq_none_iff]
  tauto

theorem Distinct.nodup_keys {s : Store} (h : s.Distinct) : s.keys.Nodup := by
  refine List.nodup_append.mpr ⟨h.1, ?_, ?_⟩
  · exact h.2.sublist (List.filter_sublist.map _)
  · intro a ha b hb hab
    subst hab
    obtain ⟨p, hp, rfl⟩ := List.mem_map.mp hb
    have hbase : s.base.get? p.1 = none := by
      simpa [Table.has] using (List.mem_filter.mp hp).2
    exact Table.get?_eq_none_iff.mp hbase ha

theorem Distinct.encard_keys {s : Store} (h : s.Distinct) :
    {key | s.get? key ≠ none}.encard = s.size := by
  have hset : {key | s.get? key ≠ none} = (s.keys.toFinset : Set String) := by
    ext key
    simp [mem_keys]
  rw [hset, Set.encard_coe_eq_coe_finsetCard, List.toFinset_card_of_nodup h.nodup_keys,
    length_keys]

theorem isEmpty_iff_size (s : Store) : s.isEmpty = true ↔ s.size = 0 := by
  rcases hbase : s.base with _ | ⟨p, rest⟩
  · simp [isEmpty, size, hbase, Table.has, List.isEmpty_iff]
  · simp [isEmpty, size, hbase]

/-! ## The theorem -/

/-- **Look-ups and counts after any history.**  A look-up finds the last value captured under the
key since the last load, or else the last value written to the base layer under it since then, or
else what that load found.  So a write to the base layer stays hidden behind a capture, and after a
load without an environment nothing is found.  The size is the number of keys under which
something is found, and a store is empty if and only if that number is zero. -/
theorem get?_ofHistory (history : List Operation) :
    (∀ key, (ofHistory history).get? key =
      (((sinceLoad history).flatMap (Operation.captured key)).getLast?).or
        ((((sinceLoad history).flatMap (written key)).getLast?).or
          ((lastLoad? history).bind (loaded key)))) ∧
    (∀ key value, (ofHistory (history ++ [.insert key value])).get? key =
      (((sinceLoad history).flatMap (Operation.captured key)).getLast?).or (some value)) ∧
    (∀ bundle external key,
      (ofHistory (history ++ [.load none bundle external])).get? key = none) ∧
    {key | (ofHistory history).get? key ≠ none}.encard = (ofHistory history).size ∧
    ((ofHistory history).isEmpty = true ↔ (ofHistory history).size = 0) := by
  have hlookup : ∀ (history : List Operation) (key : String), (ofHistory history).get? key =
      (((sinceLoad history).flatMap (Operation.captured key)).getLast?).or
        ((((sinceLoad history).flatMap (written key)).getLast?).or
          ((lastLoad? history).bind (loaded key))) := by
    intro history key
    rw [get?, get?_captured_ofHistory, get?_base_ofHistory]
  refine ⟨hlookup history, ?_, ?_, (distinct_ofHistory history).encard_keys, isEmpty_iff_size _⟩
  · intro key value
    rw [ofHistory_concat, get?, get?_captured_apply _ rfl, get?_base_apply _ rfl,
      get?_captured_ofHistory]
    simp [Operation.captured, written]
  · intro bundle external key
    rw [hlookup, sinceLoad_concat, lastLoad?_concat]
    rfl

end RequestSuite.Store
