import RequestSuite.Value.Basic

/-!
# Environments

An environment is an ordered table of variables, and an environment set names several of them, in
the order of their names.  Sets come from variable files and from the bundle itself; merging lays
one over the other, variable by variable.
-/

namespace RequestSuite

/-- The variables of one environment. -/
abbrev Environment := Table Value

/-- Environments by name, sorted by code points, each with variables of distinct names. -/
structure EnvironmentSet where
  /-- The environments with their names. -/
  entries : List (String × Environment) := []
  sorted : (entries.map (·.1)).Pairwise (· < ·) := by exact List.Pairwise.nil
  distinct : ∀ p ∈ entries, (Table.names p.2).Nodup := by exact fun _ h => absurd h List.not_mem_nil
deriving DecidableEq, Repr

namespace EnvironmentSet

instance : Inhabited EnvironmentSet := ⟨{}⟩

/-- Changes the environment of a name, which is empty if it is new, and keeps the names sorted. -/
def updateEntries (name : String) (change : Environment → Environment) :
    List (String × Environment) → List (String × Environment)
  | [] => [(name, change [])]
  | (k, env) :: rest =>
    if k = name then (k, change env) :: rest
    else if name < k then (name, change []) :: (k, env) :: rest
    else (k, env) :: updateEntries name change rest

theorem of_mem_names_updateEntries {name n : String} {change : Environment → Environment}
    {entries : List (String × Environment)}
    (h : n ∈ (updateEntries name change entries).map (·.1)) :
    n = name ∨ n ∈ entries.map (·.1) := by
  induction entries with
  | nil => simpa [updateEntries] using h
  | cons p rest ih =>
    obtain ⟨k, env⟩ := p
    simp only [updateEntries] at h
    split at h
    · exact Or.inr (by simpa using h)
    · split at h
      · simpa using h
      · rcases List.mem_cons.mp h with h | h
        · exact Or.inr (by simp [h])
        · rcases ih h with h | h
          · exact Or.inl h
          · exact Or.inr (List.mem_cons_of_mem _ h)

theorem sorted_updateEntries {name : String} {change : Environment → Environment}
    {entries : List (String × Environment)} (h : (entries.map (·.1)).Pairwise (· < ·)) :
    ((updateEntries name change entries).map (·.1)).Pairwise (· < ·) := by
  induction entries with
  | nil => simp [updateEntries]
  | cons p rest ih =>
    obtain ⟨k, env⟩ := p
    obtain ⟨hk, hrest⟩ := List.pairwise_cons.mp h
    simp only [updateEntries]
    split
    · exact h
    · rename_i hne
      split
      · rename_i hlt
        refine List.pairwise_cons.mpr ⟨fun n hn => ?_, h⟩
        rcases List.mem_cons.mp hn with rfl | hn
        · exact hlt
        · exact String.lt_trans hlt (hk n hn)
      · rename_i hlt
        refine List.pairwise_cons.mpr ⟨fun n hn => ?_, ih hrest⟩
        rcases of_mem_names_updateEntries hn with rfl | hn
        · -- neither equal nor behind, so the changed name comes after this one
          exact String.not_le.mp fun hle => hne (String.le_antisymm (String.not_lt.mp hlt) hle)
        · exact hk n hn

theorem distinct_updateEntries {name : String} {change : Environment → Environment}
    (keeps : ∀ env : Environment, (Table.names env).Nodup → (Table.names (change env)).Nodup)
    {entries : List (String × Environment)} (h : ∀ p ∈ entries, (Table.names p.2).Nodup) :
    ∀ p ∈ updateEntries name change entries, (Table.names p.2).Nodup := by
  induction entries with
  | nil => simpa [updateEntries] using keeps [] List.nodup_nil
  | cons q rest ih =>
    obtain ⟨k, env⟩ := q
    obtain ⟨henv, hrest⟩ := List.forall_mem_cons.mp h
    simp only [updateEntries]
    split
    · exact List.forall_mem_cons.mpr ⟨keeps env henv, hrest⟩
    · split
      · exact List.forall_mem_cons.mpr ⟨keeps [] List.nodup_nil, h⟩
      · exact List.forall_mem_cons.mpr ⟨henv, ih hrest⟩

/-- Changes the environment of a name, which is empty if it is new. -/
def update (set : EnvironmentSet) (name : String) (change : Environment → Environment)
    (keeps : ∀ env : Environment, (Table.names env).Nodup → (Table.names (change env)).Nodup) :
    EnvironmentSet :=
  ⟨updateEntries name change set.entries, sorted_updateEntries set.sorted,
    distinct_updateEntries keeps set.distinct⟩

/-- The set without environments. -/
def empty : EnvironmentSet := {}

/-- The environment of a name. -/
def get? (set : EnvironmentSet) (name : String) : Option Environment :=
  Table.get? set.entries name

/-- The value of a variable in an environment. -/
def value? (set : EnvironmentSet) (name key : String) : Option Value :=
  (set.get? name).bind fun env => Table.get? env key

/-- Sets one variable. -/
def insert (set : EnvironmentSet) (name key : String) (value : Value) : EnvironmentSet :=
  set.update name (fun env => Table.insert env key value) fun _ => Table.nodup_names_insert

/-- Replaces or adds a whole environment; of variables with equal names the last counts. -/
def put (set : EnvironmentSet) (name : String) (pairs : List (String × Value)) :
    EnvironmentSet :=
  set.update name (fun _ => Table.ofPairs pairs) fun _ _ => Table.nodup_names_ofPairs

/-- The set that a list of environments describes; of equal names the last counts. -/
def ofList (envs : List (String × List (String × Value))) : EnvironmentSet :=
  envs.foldl (fun set p => set.put p.1 p.2) empty

/-- Lays another set over this one: its environments are added and its variables win. -/
def merge (set other : EnvironmentSet) : EnvironmentSet :=
  other.entries.foldl
    (fun set p => set.update p.1 (fun env => Table.insertAll env p.2)
      fun _ => Table.nodup_names_insertAll) set

/-- Some sets laid over each other, the last one on top. -/
def mergeAll (sets : List EnvironmentSet) : EnvironmentSet :=
  sets.foldl merge empty

/-- The names of the environments. -/
def names (set : EnvironmentSet) : List String :=
  set.entries.map (·.1)

/-- Whether there is no environment. -/
def isEmpty (set : EnvironmentSet) : Bool :=
  set.entries.isEmpty

theorem nodup_names_of_get? {set : EnvironmentSet} {name : String} {env : Environment}
    (h : set.get? name = some env) : (Table.names env).Nodup :=
  set.distinct _ (Table.mem_of_get? h)

end EnvironmentSet

end RequestSuite
