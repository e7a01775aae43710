/-!
# Ordered tables

A table maps names to values and remembers the order in which the names came.  Writing a name that
is already there replaces its value and leaves its place alone, so the keys of a table built by
`Table.insert` are distinct and stand in the order of their first writing.
-/

namespace RequestSuite

/-- Names with their values, in the order in which the names were first written. -/
abbrev Table (α : Type) := List (String × α)

namespace Table

variable {α : Type}

/-- The value of the first entry with this name. -/
def get? (t : Table α) (name : String) : Option α :=
  match t with
  | [] => none
  | (k, v) :: rest => if k = name then some v else get? rest name

/-- Whether some entry has this name. -/
def has (t : Table α) (name : String) : Bool :=
  (get? t name).isSome

/-- Writes a value: in place if the name is there, at the end otherwise. -/
def insert (t : Table α) (name : String) (value : α) : Table α :=
  match t with
  | [] => [(name, value)]
  | (k, v) :: rest => if k = name then (k, value) :: rest else (k, v) :: insert rest name value

/-- Writes all pairs of a list, one after the other. -/
def insertAll (t : Table α) (pairs : List (String × α)) : Table α :=
  pairs.foldl (fun t p => t.insert p.1 p.2) t

/-- The table that a list of pairs describes: first place, last value. -/
def ofPairs (pairs : List (String × α)) : Table α :=
  insertAll [] pairs

/-- The names of a table. -/
def names (t : Table α) : List String :=
  t.map (·.1)

/-! ## Looking up what was written -/

@[simp] theorem get?_nil (name : String) : get? ([] : Table α) name = none := rfl

theorem get?_insert (t : Table α) (k name : String) (v : α) :
    (t.insert k v).get? name = if k = name then some v else t.get? name := by
  induction t with
  | nil => rfl
  | cons p rest ih =>
    obtain ⟨k', v'⟩ := p
    by_cases hk : k' = k
    · subst hk
      by_cases hn : k' = name <;> simp [insert, get?, hn]
    · have hk' : k ≠ k' := fun h => hk h.symm
      by_cases hn : k' = name
      · subst hn
        simp [insert, get?, hk, hk']
      · simp [insert, get?, hk, hn, ih]

theorem names_insert (t : Table α) (k : String) (v : α) :
    (t.insert k v).names = if k ∈ t.names then t.names else t.names ++ [k] := by
  induction t with
  | nil => rfl
  | cons p rest ih =>
    obtain ⟨k', v'⟩ := p
    simp only [names] at ih ⊢
    by_cases hk : k' = k
    · subst hk
      simp [insert]
    · have hk' : k ≠ k' := fun h => hk h.symm
      simp only [insert, hk, if_false, List.map_cons, ih, List.mem_cons, hk', false_or]
      by_cases hm : k ∈ List.map (·.1) rest <;> simp [hm]

theorem get?_eq_none_iff {t : Table α} {name : String} : t.get? name = none ↔ name ∉ t.names := by
  induction t with
  | nil => simp [names]
  | cons p rest ih =>
    obtain ⟨k, v⟩ := p
    simp only [names] at ih ⊢
    by_cases hk : k = name
    · simp [get?, hk]
    · have hk' : name ≠ k := fun h => hk h.symm
      simp [get?, hk, hk', ih]

theorem insert_of_get?_eq_none {t : Table α} {name : String} (h : t.get? name = none) (v : α) :
    t.insert name v = t ++ [(name, v)] := by
  induction t with
  | nil => rfl
  | cons p rest ih =>
    obtain ⟨k, w⟩ := p
    by_cases hk : k = name
    · rw [get?, if_pos hk] at h
      cases h
    · rw [get?, if_neg hk] at h
      rw [insert, if_neg hk, ih h, List.cons_append]

theorem mem_of_get? {t : Table α} {name : String} {v : α} (h : t.get? name = some v) :
    (name, v) ∈ t := by
  induction t with
  | nil => simp at h
  | cons p rest ih =>
    obtain ⟨k, w⟩ := p
    by_cases hk : k = name
    · subst hk
      simp only [get?, if_true, Option.some.injEq] at h
      simp [h]
    · rw [get?, if_neg hk] at h
      exact List.mem_cons_of_mem _ (ih h)

theorem ofPairs_concat (pairs : List (String × α)) (p : String × α) :
    ofPairs (pairs ++ [p]) = (ofPairs pairs).insert p.1 p.2 := by
  rw [ofPairs, insertAll, List.foldl_append]
  rfl

/-! ## Changing the values -/

theorem insert_map {β : Type} (f : α → β) (t : Table α) (k : String) (v : α) :
    insert (t.map fun e => (e.1, f e.2)) k (f v) = (t.insert k v).map fun e => (e.1, f e.2) := by
  induction t with
  | nil => rfl
  | cons p rest ih =>
    obtain ⟨k', v'⟩ := p
    by_cases hk : k' = k <;> simp [insert, hk, ih]

theorem insertAll_map {β : Type} (f : α → β) (t : Table α) (pairs : List (String × α)) :
    insertAll (t.map fun e => (e.1, f e.2)) (pairs.map fun e => (e.1, f e.2)) =
      (t.insertAll pairs).map fun e => (e.1, f e.2) := by
  induction pairs generalizing t with
  | nil => rfl
  | cons p rest ih =>
    rw [List.map_cons, insertAll, List.foldl_cons, insert_map]
    exact ih (t.insert p.1 p.2)

/-- Which pairs are kept and where does not depend on the values. -/
theorem ofPairs_map {β : Type} (f : α → β) (pairs : List (String × α)) :
    ofPairs (pairs.map fun e => (e.1, f e.2)) = (ofPairs pairs).map fun e => (e.1, f e.2) :=
  insertAll_map f [] pairs

/-! ## Distinct names -/

theorem get?_of_mem {t : Table α} (h : t.names.Nodup) {e : String × α} (he : e ∈ t) :
    t.get? e.1 = some e.2 := by
  induction t with
  | nil => cases he
  | cons p rest ih =>
    obtain ⟨hp, hrest⟩ := List.nodup_cons.mp h
    rcases List.mem_cons.mp he with rfl | hmem
    · simp [get?]
    · have hne : p.1 ≠ e.1 := fun heq => hp (List.mem_map.mpr ⟨e, hmem, heq.symm⟩)
      rw [get?, if_neg hne, ih hrest hmem]

/-- Where the names are distinct, it does not matter in which order they stand. -/
theorem get?_perm {t t' : Table α} (h : t.names.Nodup) (hperm : t.Perm t') (name : String) :
    t.get? name = t'.get? name := by
  rcases hget : t'.get? name with _ | v
  · rw [get?_eq_none_iff] at hget ⊢
    intro hmem
    exact hget ((hperm.map _).mem_iff.mp hmem)
  · exact get?_of_mem h (hperm.mem_iff.mpr (mem_of_get? hget))

/-- Two tables are the same if they have the same names in the same order, with the same values. -/
theorem ext_get? {t t' : Table α} (h : t'.names.Nodup) (hnames : t.names = t'.names)
    (hget : ∀ name, t.get? name = t'.get? name) : t = t' := by
  induction t generalizing t' with
  | nil => exact (List.map_eq_nil_iff.mp hnames.symm).symm
  | cons p rest ih =>
    cases t' with
    | nil => cases hnames
    | cons p' rest' =>
      obtain ⟨k, v⟩ := p
      obtain ⟨k', v'⟩ := p'
      obtain ⟨rfl, hrest⟩ : k = k' ∧ names rest = names rest' := List.cons.inj hnames
      obtain ⟨hk, hnodup⟩ := List.nodup_cons.mp h
      have hv : some v = some v' := by simpa [get?] using hget k
      have htail : rest = rest' := ih hnodup hrest fun name => by
        by_cases hname : k = name
        · subst hname
          rw [get?_eq_none_iff.mpr hk, get?_eq_none_iff.mpr (hrest ▸ hk)]
        · simpa [get?, hname] using hget name
      rw [Option.some.inj hv, htail]

theorem nodup_names_insert {t : Table α} {k : String} {v : α} (h : t.names.Nodup) :
    (t.insert k v).names.Nodup := by
  rw [names_insert]
  split
  · exact h
  · rename_i hk
    rw [List.nodup_append]
    refine ⟨h, by simp, fun a ha b hb => ?_⟩
    rintro rfl
    exact hk (List.mem_singleton.mp hb ▸ ha)

theorem nodup_names_insertAll {t : Table α} {pairs : List (String × α)} (h : t.names.Nodup) :
    (t.insertAll pairs).names.Nodup := by
  induction pairs generalizing t with
  | nil => exact h
  | cons p rest ih => exact ih (nodup_names_insert h)

theorem nodup_names_ofPairs {pairs : List (String × α)} : (ofPairs pairs).names.Nodup :=
  nodup_names_insertAll List.nodup_nil

/-- Where the names of the pairs are distinct, a name gets the value that it has there. -/
theorem get?_insertAll {t : Table α} {pairs : List (String × α)} (h : (names pairs).Nodup)
    (name : String) : (t.insertAll pairs).get? name = (get? pairs name).or (t.get? name) := by
  induction pairs generalizing t with
  | nil => rfl
  | cons p rest ih =>
    obtain ⟨k, v⟩ := p
    obtain ⟨hk, hrest⟩ := List.nodup_cons.mp h
    have hstep : (t.insertAll ((k, v) :: rest)).get? name =
        (get? rest name).or ((t.insert k v).get? name) := ih hrest
    rw [hstep, get?_insert]
    by_cases hn : k = name
    · subst hn
      rw [get?_eq_none_iff.mpr hk]
      simp [get?]
    · simp [get?, hn]

end Table

end RequestSuite
