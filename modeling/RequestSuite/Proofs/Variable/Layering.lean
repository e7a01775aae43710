import Mathlib.Data.List.Sort
import Mathlib.Data.String.Basic
import RequestSuite.Command.Execution
import RequestSuite.Proofs.Request.Overlay

/-!
# Environments in layers

Variable files and the bundle are laid over each other in two ways: a store is loaded with one
environment of each, set by set, and the environments are listed from all sets merged into one.
Merging is associative, with the empty set as its unit (`EnvironmentSet.isLayering_merge`), and
`Store.load_eq_merged` says that both ways come to the same variables in the same order.
-/

namespace RequestSuite

namespace EnvironmentSet

/-! ## Changing one environment -/

variable {set a b : EnvironmentSet} {name n : String}

theorem get?_updateEntries {change : Environment → Environment}
    {entries : List (String × Environment)} (h : (entries.map (·.1)).Pairwise (· < ·)) :
    Table.get? (updateEntries name change entries) n =
      if name = n then some (change ((Table.get? entries name).getD []))
      else Table.get? entries n := by
  induction entries with
  | nil => rfl
  | cons p rest ih =>
    obtain ⟨k, env⟩ := p
    obtain ⟨hk, hrest⟩ := List.pairwise_cons.mp h
    rw [updateEntries]
    split
    · rename_i heq
      subst heq
      by_cases hn : k = n <;> simp [Table.get?, hn]
    · rename_i hne
      split
      · -- The names that follow come later still, so there is no environment of this name.
        rename_i hlt
        have hnone : Table.get? ((k, env) :: rest) name = none := by
          rw [Table.get?_eq_none_iff]
          intro hmem
          rcases List.mem_cons.mp hmem with heq | hmem
          · exact hne heq.symm
          · exact absurd (String.lt_trans hlt (hk name hmem)) (String.lt_irrefl name)
        rw [hnone]
        rfl
      · rw [Table.get?, ih hrest, Table.get?, if_neg hne, Table.get?]
        by_cases hn : k = n
        · subst hn
          simp [Ne.symm hne]
        · simp [hn]

theorem get?_update {change : Environment → Environment}
    {keeps : ∀ env : Environment, (Table.names env).Nodup → (Table.names (change env)).Nodup} :
    (set.update name change keeps).get? n =
      if name = n then some (change ((set.get? name).getD [])) else set.get? n :=
  get?_updateEntries set.sorted

/-! ## Merging, environment by environment -/

/-- What an environment becomes where another one of its name is laid over it. -/
def layer (below above : Option Environment) : Option Environment :=
  match above with
  | none => below
  | some env => some (Table.insertAll (below.getD []) env)

theorem none_layer {above : Option Environment} (h : (Table.names (above.getD [])).Nodup) :
    layer none above = above := by
  cases above with
  | none => rfl
  | some env => exact congrArg some (Table.ofPairs_eq_self h)

theorem getD_layer (below above : Option Environment) :
    (layer below above).getD [] = Table.insertAll (below.getD []) (above.getD []) := by
  cases above <;> rfl

theorem isSome_layer (below above : Option Environment) :
    (layer below above).isSome = (below.isSome || above.isSome) := by
  cases above <;> simp [layer]

theorem layer_assoc {below middle above : Option Environment}
    (hb : (Table.names (below.getD [])).Nodup) (hm : (Table.names (middle.getD [])).Nodup)
    (ha : (Table.names (above.getD [])).Nodup) :
    layer (layer below middle) above = layer below (layer middle above) := by
  cases above with
  | none => rfl
  | some env =>
    have hall : Table.insertAll (Table.insertAll (below.getD []) (middle.getD [])) env =
        Table.insertAll (below.getD []) (Table.insertAll (middle.getD []) env) :=
      Table.insertAll_assoc hb hm ha
    rw [layer, getD_layer, hall]
    rfl

/-- The names of an environment, of which there are none if it is absent. -/
theorem nodup_names_getD (set : EnvironmentSet) (n : String) :
    (Table.names ((set.get? n).getD [])).Nodup := by
  cases h : set.get? n with
  | none => exact List.nodup_nil
  | some env => exact nodup_names_of_get? h

theorem nodup_names (set : EnvironmentSet) : set.names.Nodup :=
  List.Pairwise.imp (fun hlt => ne_of_lt hlt) set.sorted

theorem mem_names_iff : n ∈ set.names ↔ (set.get? n).isSome = true := by
  have hnone : set.get? n = none ↔ n ∉ set.names := Table.get?_eq_none_iff
  rw [Option.isSome_iff_ne_none, ne_eq, hnone, not_not]

theorem get?_foldl_update {entries : List (String × Environment)}
    (h : (Table.names entries).Nodup) :
    (entries.foldl (fun set p => set.update p.1 (fun env => Table.insertAll env p.2)
      fun _ => Table.nodup_names_insertAll) set).get? n =
      layer (set.get? n) (Table.get? entries n) := by
  induction entries generalizing set with
  | nil => rfl
  | cons p rest ih =>
    obtain ⟨k, env⟩ := p
    obtain ⟨hk, hrest⟩ := List.nodup_cons.mp h
    rw [List.foldl_cons, ih hrest, get?_update, Table.get?]
    by_cases hn : k = n
    · -- The name does not come again, so what was laid over it just now stays.
      subst hn
      rw [if_pos rfl, if_pos rfl, Table.get?_eq_none_iff.mpr hk]
      rfl
    · rw [if_neg hn, if_neg hn]

theorem get?_merge (a b : EnvironmentSet) (n : String) :
    (a.merge b).get? n = layer (a.get? n) (b.get? n) :=
  get?_foldl_update b.nodup_names

/-! ## Merging as an operation -/

/-- Two sets are the same if they have the same environments by name. -/
theorem ext_get? (h : ∀ n, a.get? n = b.get? n) : a = b := by
  have hnames : a.names = b.names := by
    refine List.Pairwise.eq_of_mem_iff a.sorted b.sorted fun n => ?_
    rw [mem_names_iff, mem_names_iff, h]
  have hentries : a.entries = b.entries := Table.ext_get? b.nodup_names hnames h
  cases a
  cases b
  cases hentries
  rfl

theorem merge_empty (a : EnvironmentSet) : a.merge empty = a := rfl

theorem empty_merge (a : EnvironmentSet) : empty.merge a = a :=
  ext_get? fun n => (get?_merge empty a n).trans (none_layer (nodup_names_getD a n))

theorem merge_assoc (a b c : EnvironmentSet) : (a.merge b).merge c = a.merge (b.merge c) :=
  ext_get? fun n => by
    rw [get?_merge, get?_merge, get?_merge, get?_merge]
    exact layer_assoc (nodup_names_getD a n) (nodup_names_getD b n) (nodup_names_getD c n)

/-- The names of the variables of an environment, in their order. -/
def keys (set : EnvironmentSet) (name : String) : List String :=
  Table.names ((set.get? name).getD [])

/-- Whether an operation lays sets over each other: it can be done in any grouping, the empty set
adds nothing, no environment is lost, be it without variables, and in each environment a variable
keeps its first place and takes its last value. -/
structure IsLayering (op : EnvironmentSet → EnvironmentSet → EnvironmentSet) : Prop where
  assoc : ∀ a b c, op (op a b) c = op a (op b c)
  empty_left : ∀ a, op empty a = a
  empty_right : ∀ a, op a empty = a
  names : ∀ a b n, n ∈ (op a b).names ↔ n ∈ a.names ∨ n ∈ b.names
  order : ∀ a b n, (op a b).keys n = RequestSuite.distinct (a.keys n ++ b.keys n)
  lastWins : ∀ a b n key, (op a b).value? n key = (b.value? n key).or (a.value? n key)

theorem value?_eq_get?_getD (set : EnvironmentSet) (n key : String) :
    set.value? n key = Table.get? ((set.get? n).getD []) key := by
  rw [value?]
  cases set.get? n <;> rfl

theorem isLayering_merge : IsLayering merge where
  assoc := merge_assoc
  empty_left := empty_merge
  empty_right := merge_empty
  names a b n := by
    rw [mem_names_iff, mem_names_iff, mem_names_iff, get?_merge, isSome_layer, Bool.or_eq_true]
  order a b n := by
    rw [keys, get?_merge, getD_layer, Table.names_insertAll (nodup_names_getD a n), keys, keys]
  lastWins a b n key := by
    rw [value?_eq_get?_getD, get?_merge, getD_layer,
      Table.get?_insertAll (nodup_names_getD b n), ← value?_eq_get?_getD, ← value?_eq_get?_getD]

/-! ## Merging many sets -/

theorem getD_get?_foldl_merge (sets : List EnvironmentSet) (set : EnvironmentSet) (n : String) :
    ((sets.foldl merge set).get? n).getD [] =
      sets.foldl (fun t s => Table.insertAll t ((s.get? n).getD [])) ((set.get? n).getD []) := by
  induction sets generalizing set with
  | nil => rfl
  | cons s rest ih => rw [List.foldl_cons, ih, get?_merge, getD_layer, List.foldl_cons]

theorem mem_names_foldl_merge {sets : List EnvironmentSet} :
    n ∈ (sets.foldl merge set).names ↔ n ∈ set.names ∨ ∃ s ∈ sets, n ∈ s.names := by
  induction sets generalizing set with
  | nil => simp
  | cons s rest ih =>
    rw [List.foldl_cons, ih, isLayering_merge.names, List.exists_mem_cons_iff, or_assoc]

end EnvironmentSet

/-! ## Loading and merging -/

theorem Store.layered_eq_mergeAll (name : String) (bundle : EnvironmentSet)
    (external : List EnvironmentSet) : Store.layered name bundle external =
      ((EnvironmentSet.mergeAll (external ++ [bundle])).get? name).getD [] :=
  (EnvironmentSet.getD_get?_foldl_merge (external ++ [bundle]) .empty name).symm

theorem Command.isKnown_iff {name : String} {bundle : Bundle} {external : List EnvironmentSet} :
    Command.isKnown name bundle external = true ↔
      name ∈ (EnvironmentSet.mergeAll (external ++ [bundle.environments])).names := by
  have hempty : name ∉ EnvironmentSet.empty.names := List.not_mem_nil
  rw [EnvironmentSet.mergeAll, EnvironmentSet.mem_names_foldl_merge, Command.isKnown,
    List.any_eq_true]
  simp only [EnvironmentSet.mem_names_iff] at hempty ⊢
  simp [hempty, or_and_right, exists_or, or_comm]

/-- **Loading is merging.**  The variables of a store that was loaded with an environment are those
that the environment has when all sets are merged, in the same order; an environment is known if
and only if the merged set lists it. -/
theorem Store.load_eq_merged (external : List EnvironmentSet) (bundle : Bundle) (name : String) :
    Store.load (some name) bundle.environments external =
        ⟨((EnvironmentSet.mergeAll (external ++ [bundle.environments])).get? name).getD [], []⟩ ∧
      (∀ key, (Store.load (some name) bundle.environments external).get? key =
        (EnvironmentSet.mergeAll (external ++ [bundle.environments])).value? name key) ∧
      (name ∈ (EnvironmentSet.mergeAll (external ++ [bundle.environments])).names ↔
        Command.isKnown name bundle external = true) ∧
      EnvironmentSet.IsLayering EnvironmentSet.merge := by
  have hload : Store.load (some name) bundle.environments external =
      ⟨((EnvironmentSet.mergeAll (external ++ [bundle.environments])).get? name).getD [], []⟩ := by
    rw [Store.load, Store.layered_eq_mergeAll]
  refine ⟨hload, fun key => ?_, Command.isKnown_iff.symm, EnvironmentSet.isLayering_merge⟩
  rw [hload, EnvironmentSet.value?_eq_get?_getD]
  rfl

end RequestSuite
